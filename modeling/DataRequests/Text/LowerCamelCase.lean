import DataRequests.Text.Letter
import DataRequests.Text.LetterCase

/-!
# Lower camel case

A name is cut into words, the first word is written in lower case, and every further word starts with a capital. Words are
the stretches of alphanumeric characters, cut once more wherever a lower-case letter is followed by an upper-case one and
before the last capital of a row of capitals that a lower-case letter follows (`wordsOf`).
-/

namespace DataRequests.Text

/-- What the last cased character of a word under way was, since its start. -/
inductive CaseMode where
  | none | lower | upper
  deriving DecidableEq, Repr

/-- The mode after a character: that of the character if it has a case. -/
def CaseMode.after (mode : CaseMode) (c : Char) : CaseMode :=
  if isLower c then .lower else if isUpper c then .upper else mode

/-- The words of a stretch of alphanumeric characters. `word` holds, last character first, what has been read of the word
under way. -/
def splitCase (mode : CaseMode) (word : List Char) : List Char → List (List Char)
  | [] => []
  | [c] => [(c :: word).reverse]
  | c :: next :: rest =>
    if mode.after c = .lower ∧ isUpper next then (c :: word).reverse :: splitCase .none [] (next :: rest)
    else if mode = .upper ∧ isUpper c ∧ isLower next then word.reverse :: splitCase .none [c] (next :: rest)
    else splitCase (mode.after c) (c :: word) (next :: rest)

/-- The stretches of alphanumeric characters of a text, empty ones included. -/
def stretches : List Char → List (List Char)
  | [] => [[]]
  | c :: rest =>
    match stretches rest with
    | [] => [[]]
    | stretch :: more => if isAlphanumeric c then (c :: stretch) :: more else [] :: stretch :: more

/-- The words of a text. -/
def wordsOf (cs : List Char) : List (List Char) :=
  (stretches cs).flatMap (splitCase .none [])

/-- A word in lower case. A capital sigma at its end takes the final form. -/
def lowerWord : List Char → List Char
  | [] => []
  | [c] => if c = 'Σ' then ['ς'] else toLower c
  | c :: rest => toLower c ++ lowerWord rest

/-- A word with a capital first letter and the rest in lower case. -/
def capitalWord : List Char → List Char
  | [] => []
  | c :: rest => toUpper c ++ lowerWord rest

/-- A text in lower camel case. -/
def lowerCamelCase (s : String) : String :=
  match wordsOf s.toList with
  | [] => ""
  | word :: rest => String.ofList (lowerWord word ++ rest.flatMap capitalWord)

end DataRequests.Text
