/-!
# Workspaces

A workspace is a set of files with the directories that hold them, and a path leads to a file, to a directory or nowhere. What it
leads to may be there and still give no text: it may be a directory, hold bytes that are no text, or not be open to reading
(`FileEntry.unreadable`). That is another thing than a path that leads nowhere, or that may not be followed to its end, which is an
error of the lookup.

Paths are relative to the workspace; what lies outside it is only known to have directories, by way of `..` and the root. A directory
stands for itself under the empty name too, so that a path that ends in a slash leads to a directory.
-/

namespace DataRequests

/-- Why a path does not lead to what is asked for, or why what it leads to cannot be used. -/
inductive PathError where
  | missing
  /-- Something on the way is a file. -/
  | notDirectory
  | isDirectory
  /-- The path, or a name in it, is too long. -/
  | tooLong
  /-- Something is not allowed: to follow a name in a directory, to read a file, to write it or to create it. -/
  | denied
  /-- The bytes of a file are no text. -/
  | notText
  | other (reason : String)
  deriving DecidableEq, Repr

/-- The wording of an error. -/
def PathError.message : PathError → String
  | .missing => "No such file or directory (os error 2)"
  | .notDirectory => "Not a directory (os error 20)"
  | .isDirectory => "Is a directory (os error 21)"
  | .tooLong => "File name too long (os error 36)"
  | .denied => "Permission denied (os error 13)"
  | .notText => "stream did not contain valid UTF-8"
  | .other reason => reason

/-- What comes of reading what a path leads to: a text, or why there is none although something is there. -/
inductive FileEntry where
  | file (text : String)
  | unreadable (error : PathError)
  deriving DecidableEq, Repr

/-! ## Files and directories -/

/-- What is allowed with a file, or with a directory and in it. -/
structure Access where
  read : Bool := true
  write : Bool := true
  /-- Whether the names in a directory may be followed. -/
  search : Bool := true
  deriving DecidableEq, Repr

/-- What a file holds: a text, or bytes that are none. -/
inductive Content where
  | text (value : String)
  | bytes (value : ByteArray) (h : ¬value.IsValidUTF8)

/-- The content that some bytes are. -/
def Content.ofBytes (bytes : ByteArray) : Content :=
  if h : bytes.IsValidUTF8 then .text (String.fromUTF8 bytes h) else .bytes bytes h

/-- What comes of reading a content. -/
def Content.entry : Content → FileEntry
  | .text value => .file value
  | .bytes .. => .unreadable .notText

/-- A file, with what is allowed with it. -/
structure StoredFile where
  content : Content
  access : Access := {}

/-- What is at a place. -/
inductive Node where
  | file (stored : StoredFile)
  | directory (access : Access)

/-- What comes of reading what is at a place. -/
def Node.entry : Node → FileEntry
  | .file stored => if stored.access.read then stored.content.entry else .unreadable .denied
  | .directory access => .unreadable (if access.read then .isDirectory else .denied)

/-- Files and directories by their places: the names of the directories on the way and their own. A directory on the way to another
place need not be listed; when it is not, everything is allowed in it. -/
structure Workspace where
  files : List (List String × StoredFile)
  directories : List (List String × Access) := []

namespace Workspace

/-- The names of a path. A path that starts with a slash starts at the root. -/
def namesOf (path : String) : List String :=
  let names := (path.toList.splitOn '/').map String.ofList
  if path.toList.head? = some '/' then "/" :: names.tail else names

/-- Whether a name says nothing about the place. -/
def isIdle (name : String) : Bool :=
  name = "" || name = "."

/-- Whether a place lies outside the workspace, where only directories are known. -/
def isOutside (place : List String) : Bool :=
  place.all fun name => name = ".." || name = "/"

/-- The place that a name leads to from a directory. -/
def step (place : List String) (name : String) : List String :=
  if isIdle name then place
  else if name = ".." && !isOutside place then place.dropLast
  else place ++ [name]

/-- The workspace with some texts in files, given by their paths. -/
def ofFiles (files : List (String × String)) : Workspace where
  files := files.map fun (path, text) => ((namesOf path).foldl step [], { content := .text text })

/-- The number of bytes that a name may take. -/
def nameLimit : Nat := 255

/-- The number of bytes that a path may take. -/
def pathLimit : Nat := 4095

/-- What there is at a place. -/
def node? (w : Workspace) (place : List String) : Option Node :=
  match w.files.find? (·.1 = place), w.directories.find? (·.1 = place) with
  | some (_, file), _ => some (.file file)
  | none, some (_, access) => some (.directory access)
  | none, none =>
    let isOnTheWay := (w.files.map (·.1) ++ w.directories.map (·.1)).any place.isPrefixOf
    if isOutside place || isOnTheWay then some (.directory {}) else none

/-- Whether a name is looked for in the directory in front of it. The empty one stands for the directory itself, and the root is not in
any. -/
def isSearched (name : String) : Bool :=
  name ≠ "" && name ≠ "/"

/-- Whether a name may follow a place: the place has to be a directory in which it is allowed to look for the name. -/
def enter (w : Workspace) (place : List String) (name : String) : Except PathError Unit :=
  match w.node? place with
  | some (.directory access) => if isSearched name && !access.search then .error .denied else .ok ()
  | some (.file _) => .error .notDirectory
  | none => .error .missing

/-- The place that some names lead to. -/
def walk (w : Workspace) (place : List String) : List String → Except PathError (List String)
  | [] => .ok place
  | name :: rest =>
    match w.enter place name with
    | .error e => .error e
    | .ok () => if nameLimit < name.utf8ByteSize then .error .tooLong else w.walk (step place name) rest

/-- What a path leads to. It is an error when it leads nowhere or cannot be followed to its end. -/
def lookup (w : Workspace) (path : String) : Except PathError FileEntry :=
  if path = "" then .error .missing
  else if pathLimit < path.utf8ByteSize then .error .tooLong
  else
    match w.walk [] (namesOf path) with
    | .error e => .error e
    | .ok place =>
      match w.node? place with
      | some node => .ok node.entry
      | none => .error .missing

/-- The text of the file that a path leads to. -/
def text? (w : Workspace) (path : String) : Option String :=
  match w.lookup path with
  | .ok (.file text) => some text
  | _ => none

/-- The workspace with a file at a place. -/
def put (w : Workspace) (place : List String) (file : StoredFile) : Workspace :=
  { w with files := w.files.filter (·.1 ≠ place) ++ [(place, file)] }

/-- Whether it is allowed to create something in the directory at a place. -/
def mayCreate (w : Workspace) (place : List String) : Bool :=
  match w.node? place with
  | some (.directory access) => access.write
  | _ => false

/-- The workspace with a text in the file under a name in a directory. The file is created when nothing is there, and it is open then. -/
def store (w : Workspace) (directory : List String) (name text : String) : Except PathError Workspace :=
  match w.node? (directory ++ [name]) with
  | some (.directory _) => .error .isDirectory
  | some (.file file) =>
    if file.access.write then .ok (w.put (directory ++ [name]) { file with content := .text text }) else .error .denied
  | none => if w.mayCreate directory then .ok (w.put (directory ++ [name]) { content := .text text }) else .error .denied

/-- Whether a path ends in the name of a directory, or in a slash, so that no file can be written under it. -/
def endsInDirectory (path : String) (name : String) : Bool :=
  path.toList.getLast? = some '/' || isIdle name || name = ".."

/-- The workspace with a file under a path: the directory that is to hold it has to be there. -/
def write (w : Workspace) (path text : String) : Except PathError Workspace :=
  if pathLimit < path.utf8ByteSize then .error .tooLong
  else
    match (namesOf path).reverse.dropWhile (·.isEmpty) with
    | [] => .error .missing
    | name :: above =>
      match w.walk [] above.reverse with
      | .error e => .error e
      | .ok place =>
        match w.enter place name with
        | .error e => .error e
        | .ok () =>
          if endsInDirectory path name then .error .isDirectory
          else if nameLimit < name.utf8ByteSize then .error .tooLong
          else w.store place name text

end Workspace

end DataRequests
