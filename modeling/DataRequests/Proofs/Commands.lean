import DataRequests.Command
import DataRequests.Proofs.ArenaCalls
import DataRequests.Proofs.Completeness
import DataRequests.Proofs.JsonUnique

/-!
# What commands agree on

A command gets no system when its settings cannot be loaded, when there is no document, or when the document is unreadable, malformed or
faulty (`Obstacle`); none of these depends on the task. So `resolve` and `check` fail in the same cases, and they leave the workspace as
it was (`checks_what_resolve_writes`). Where there is a system, `check` reports what can be counted in the text that `resolve` prints: the
slots in use, and the requests of the interfaces in them.
-/

namespace DataRequests

/-- The text of a file is what its path leads to. -/
theorem Workspace.text?_eq_some_iff {w : Workspace} {path text : String} :
    w.text? path = some text ↔ w.lookup path = .ok (.file text) := by
  unfold text?
  split
  · rename_i found h
    simp [h]
  · rename_i h
    exact iff_of_false nofun (h text)

namespace Command

/-! ## What keeps a command from its system -/

/-- No settings can be read under a path: nothing is found there, what is there gives no text, or its text gives no settings. -/
inductive NoSettingsAt (w : Workspace) (path : String) : Prop where
  | missing {e : PathError} (h : w.lookup path = .error e)
  | unreadable {e : PathError} (h : w.lookup path = .ok (.unreadable e))
  | invalid {text : String} {e : SettingsError} (htext : w.text? path = some text) (h : Settings.parse text = .error e)

/-- The settings cannot be loaded: they are given under a path where none can be read. When no path is given, this is the default one,
if something is found there. -/
def NoSettings (w : Workspace) : Option String → Prop
  | some path => NoSettingsAt w path
  | none => (∃ entry, w.lookup defaultSettings = .ok entry) ∧ NoSettingsAt w defaultSettings

/-- Something keeps a command from its system, whatever its task is. -/
inductive Obstacle (w : Workspace) (settings : Option String) (document : String) : Prop where
  | settings (h : NoSettings w settings)
  | missing {e : PathError} (h : w.lookup document = .error e)
  /-- The document is there, but it gives no text. -/
  | unreadable {e : PathError} (h : w.lookup document = .ok (.unreadable e))
  | malformed {text : String} {e : Json.ReadError} (htext : w.text? document = some text) (h : Document.parse text = .error e)
  | faulty {text : String} {d : Document} {defaults : Defaults} (hsettings : loadSettings w.lookup settings = .ok defaults)
      (htext : w.text? document = some text) (hparse : Document.parse text = .ok d) (h : (d.resolve defaults).2 ≠ [])

section Reading

variable {w : Workspace}

/-- Reading settings fails exactly when there are none to be read. -/
theorem readSettings_eq_error_iff (path : String) : (∃ f, readSettings w.lookup path = .error f) ↔ NoSettingsAt w path := by
  unfold readSettings
  split
  case h_1 e h => exact iff_of_true ⟨_, rfl⟩ (.missing h)
  case h_2 e h => exact iff_of_true ⟨_, rfl⟩ (.unreadable h)
  case h_3 text h =>
    have htext : w.text? path = some text := Workspace.text?_eq_some_iff.mpr h
    cases hparse : Settings.parse text with
    | ok defaults =>
      refine iff_of_false nofun ?_
      rintro (h' | h' | ⟨htext', hfails⟩)
      · cases h.symm.trans h'
      · cases h.symm.trans h'
      · obtain rfl := Option.some.inj (htext.symm.trans htext')
        cases hparse.symm.trans hfails
    | error e =>
      refine iff_of_true ?_ (.invalid htext hparse)
      cases e <;> exact ⟨_, rfl⟩

/-- Loading settings fails exactly when they cannot be loaded. -/
theorem loadSettings_eq_error_iff (settings : Option String) :
    (∃ f, loadSettings w.lookup settings = .error f) ↔ NoSettings w settings := by
  cases settings with
  | some path => exact readSettings_eq_error_iff path
  | none =>
    simp only [loadSettings, NoSettings]
    split
    · rename_i e h
      simp [h]
    · rename_i entry h
      simp [h, readSettings_eq_error_iff]

/-- A text gives no system when it is no document or something is wrong with the document. -/
theorem buildText_eq_error_iff (text : String) (defaults : Defaults) :
    (∃ e, buildText text defaults = .error e) ↔
      (∃ e, Document.parse text = .error e) ∨ ∃ d, Document.parse text = .ok d ∧ (d.resolve defaults).2 ≠ [] := by
  unfold buildText
  split
  · rename_i e h
    simp [h]
  · rename_i d h
    split
    · rename_i errors hbuild
      obtain ⟨rfl, hne⟩ := (d.build_eq_error_iff defaults errors).mp hbuild
      simp [h, hne]
    · rename_i system hbuild
      have hnone := ((d.build_eq_ok_iff defaults system).mp hbuild).1
      simp [h, hnone]

/-- A file gives no system when nothing is found, when what is there gives no text, or when its text gives no system. -/
theorem buildFile_eq_error_iff (path : String) (defaults : Defaults) :
    (∃ f, buildFile w.lookup path defaults = .error f) ↔
      (∃ e, w.lookup path = .error e) ∨ (∃ e, w.lookup path = .ok (.unreadable e)) ∨
        ∃ text, w.text? path = some text ∧ ∃ e, buildText text defaults = .error e := by
  simp only [Workspace.text?_eq_some_iff]
  unfold buildFile
  split
  case h_1 e h => simp [h]
  case h_2 e h => simp [h]
  case h_3 text h =>
    simp only [h, Except.ok.injEq, FileEntry.file.injEq]
    cases hbuild : buildText text defaults <;> simp [hbuild]

/-- A command gets no system exactly when something keeps it from one. -/
theorem system_eq_error_iff (i : Invocation) (environment : Option String) :
    (∃ f, i.system environment w.lookup = .error f) ↔ Obstacle w (i.settingsPath environment) i.document := by
  constructor
  · rintro ⟨f, h⟩
    unfold Invocation.system at h
    split at h
    · rename_i f' hload
      exact .settings ((loadSettings_eq_error_iff _).mp ⟨f', hload⟩)
    · rename_i defaults hload
      rcases (buildFile_eq_error_iff _ _).mp ⟨f, h⟩ with ⟨e, hmissing⟩ | ⟨e, hunreadable⟩ | ⟨text, htext, hbuild⟩
      · exact .missing hmissing
      · exact .unreadable hunreadable
      · rcases (buildText_eq_error_iff _ _).mp hbuild with ⟨e, hparse⟩ | ⟨d, hparse, hfaulty⟩
        · exact .malformed htext hparse
        · exact .faulty hload htext hparse hfaulty
  · intro h
    unfold Invocation.system
    cases hload : loadSettings w.lookup (i.settingsPath environment) with
    | error f => exact ⟨f, rfl⟩
    | ok defaults =>
      refine (buildFile_eq_error_iff _ _).mpr ?_
      cases h with
      | settings h =>
        obtain ⟨f, hf⟩ := (loadSettings_eq_error_iff _).mpr h
        cases hload.symm.trans hf
      | missing h => exact .inl ⟨_, h⟩
      | unreadable h => exact .inr (.inl ⟨_, h⟩)
      | malformed htext hparse => exact .inr (.inr ⟨_, htext, (buildText_eq_error_iff _ _).mpr (.inl ⟨_, hparse⟩)⟩)
      | faulty hsettings htext hparse hfaulty =>
        obtain rfl := Except.ok.inj (hload.symm.trans hsettings)
        exact .inr (.inr ⟨_, htext, (buildText_eq_error_iff _ _).mpr (.inr ⟨_, hparse, hfaulty⟩)⟩)

end Reading

/-! ## What can be counted in a written system -/

/-- The values in the slots of a written arena that are in use. -/
def usedSlots (arena : Json) : List Json :=
  (arena.field "values").items.filterMap (Arena.slotOfJson id)

/-- The interfaces of a written system. -/
def writtenInterfaces (system : Json) : List Json :=
  usedSlots (system.field "interfaces")

/-- The requests of a written interface. -/
def writtenRequests (interface : Json) : List Json :=
  (interface.field "requests").items

/-- The slots of a written arena that are in use are those with values. -/
theorem usedSlots_toJson {α : Type} (write : α → Json) (a : Arena α) : usedSlots (a.toJson write) = a.values.map write := by
  have hitems : ((a.toJson write).field "values").items = a.slots.map (Arena.slotToJson write) := rfl
  have hslot (slot : Option α) : Arena.slotOfJson id (Arena.slotToJson write slot) = slot.map write := by
    cases slot <;> rfl
  rw [usedSlots, hitems, List.filterMap_map, Arena.values, List.map_filterMap]
  exact List.filterMap_congr fun slot _ => hslot slot

theorem writtenInterfaces_toJson (system : ResolvedSystem) :
    writtenInterfaces system.toJson = system.interfaces.values.map InterfaceSpec.toJson :=
  usedSlots_toJson InterfaceSpec.toJson system.interfaces

/-- The requests of the interfaces of a written system are the requests of the system. -/
theorem flatMap_writtenRequests_toJson (system : ResolvedSystem) :
    (writtenInterfaces system.toJson).flatMap writtenRequests =
      (system.interfaces.values.flatMap (·.requests)).map RequestSpec.toJson := by
  rw [writtenInterfaces_toJson, List.flatMap_map, List.map_flatMap]
  rfl

/-- Counting the requests of interfaces goes on from any number. -/
theorem foldl_requests (interfaces : List InterfaceSpec) (count : Nat) :
    interfaces.foldl (fun count interface => count + interface.requests.length) count =
      count + (interfaces.flatMap (·.requests)).length := by
  induction interfaces generalizing count with
  | nil => rfl
  | cons i rest ih =>
    rw [List.foldl_cons, ih, List.flatMap_cons, List.length_append, Nat.add_assoc]

/-- The number of requests is that of all interfaces together. -/
theorem requestCount_eq (system : ResolvedSystem) :
    requestCount system = (system.interfaces.values.flatMap (·.requests)).length := by
  rw [requestCount, foldl_requests, Nat.zero_add]

/-- What `check` reports can be counted in the written system. -/
theorem summary_eq (path : String) (system : ResolvedSystem) :
    summary path system =
      "OK " ++ path ++ " (" ++ toString (writtenInterfaces system.toJson).length ++ " interfaces, " ++
        toString ((writtenInterfaces system.toJson).flatMap writtenRequests).length ++ " requests)\n" := by
  have hinterfaces : (writtenInterfaces system.toJson).length = system.interfaces.size := by
    rw [writtenInterfaces_toJson, List.length_map, Arena.size_eq_length_values]
  have hrequests : ((writtenInterfaces system.toJson).flatMap writtenRequests).length = requestCount system := by
    rw [flatMap_writtenRequests_toJson, List.length_map, requestCount_eq]
  rw [hinterfaces, hrequests, summary]

/-- What `resolve` writes is a text of the system. -/
theorem written_isTextOf (system : ResolvedSystem) : Json.IsTextOf (written system) system.toJson := by
  have hbreak : Json.Spaced [] ['\n'] := .nil (Json.blanks_lineAt 0)
  have htext := (Json.indented_isTextOf system.toJson).append hbreak
  rw [List.append_nil] at htext
  rw [Json.IsTextOf, written, String.toList_append]
  exact htext

/-! ## The two tasks -/

section Running

variable {w : Workspace} {environment : Option String} {i : Invocation}

/-- A command without a system fails and leaves the workspace as it was. -/
theorem apply_of_error {f : Failure} (h : i.system environment w.lookup = .error f) : i.apply environment w = (.failed f, w) := by
  simp [Invocation.apply, Invocation.product, h]

/-- A command with a system that is printed prints it. -/
theorem apply_of_print {system : ResolvedSystem} {text : String} (h : i.system environment w.lookup = .ok system)
    (hprint : i.present system = .print text) : i.apply environment w = (⟨0, text, ""⟩, w) := by
  simp [Invocation.apply, Invocation.product, h, hprint]

end Running

/-- `resolve`, with an output or without one. -/
def resolving (document : String) (settings output : Option String) : Invocation :=
  ⟨.resolve output, document, settings⟩

/-- `check` of the same document under the same settings. -/
def checking (document : String) (settings : Option String) : Invocation :=
  ⟨.check, document, settings⟩

/-- Whatever keeps a command from its system, `resolve` then fails, with an output or without one, and the workspace is as it was.
`check` succeeds exactly when `resolve` without an output does, which is when nothing keeps the two from their system; and then it reports
the number of used slots and the number of requests of whatever JSON value `resolve` has printed a text of. -/
theorem checks_what_resolve_writes (w : Workspace) (environment settings : Option String) (document : String) :
    (Obstacle w (settings.or environment) document →
        ∀ output, ∃ f, (resolving document settings output).apply environment w = (.failed f, w)) ∧
      (((checking document settings).apply environment w).1.exit = 0 ↔
        ((resolving document settings none).apply environment w).1.exit = 0) ∧
      (((checking document settings).apply environment w).1.exit = 0 ↔ ¬Obstacle w (settings.or environment) document) ∧
      (((checking document settings).apply environment w).1.exit = 0 →
        (∃ json, Json.IsTextOf ((resolving document settings none).apply environment w).1.stdout json) ∧
          ∀ json, Json.IsTextOf ((resolving document settings none).apply environment w).1.stdout json →
            ((checking document settings).apply environment w).1.stdout =
              "OK " ++ document ++ " (" ++ toString (writtenInterfaces json).length ++ " interfaces, " ++
                toString ((writtenInterfaces json).flatMap writtenRequests).length ++ " requests)\n") := by
  have hobstacle := system_eq_error_iff (w := w) (checking document settings) environment
  cases hsystem : (checking document settings).system environment w.lookup with
  | error f =>
    have hblocked : Obstacle w (settings.or environment) document := hobstacle.mp ⟨f, hsystem⟩
    have hresolve (output : Option String) : (resolving document settings output).apply environment w = (.failed f, w) :=
      apply_of_error hsystem
    have hexit : (Outcome.failed f).exit ≠ 0 := Nat.one_ne_zero
    rw [apply_of_error hsystem, hresolve none]
    exact ⟨fun _ output => ⟨f, hresolve output⟩, Iff.rfl, iff_of_false hexit (not_not_intro hblocked), fun h => absurd h hexit⟩
  | ok system =>
    have hfree : ¬Obstacle w (settings.or environment) document := by
      intro h
      obtain ⟨f, hf⟩ := hobstacle.mpr h
      cases hsystem.symm.trans hf
    have hresolve : (resolving document settings none).apply environment w = (⟨0, written system, ""⟩, w) :=
      apply_of_print hsystem rfl
    have hcheck : (checking document settings).apply environment w = (⟨0, summary document system, ""⟩, w) :=
      apply_of_print hsystem rfl
    rw [hcheck, hresolve]
    refine ⟨fun h => absurd h hfree, Iff.rfl, iff_of_true rfl hfree, fun _ => ⟨⟨_, written_isTextOf system⟩, fun json hjson => ?_⟩⟩
    rw [hjson.unique (written_isTextOf system)]
    exact summary_eq document system

/-- A document of one interface with one request, one that breaks off and one that may not be read, beside empty settings, and default
settings that are no text. -/
def notesWorkspace : Workspace where
  files :=
    [(["broken.json"], { content := .text "[" }),
     (["datadef.toml"], { content := .bytes (.mk #[0xFF]) (by decide) }),
     (["empty.toml"], { content := .text "" }),
     (["locked.json"], { content := .text "\x7b\x7d", access := { read := false } }),
     (["notes.json"],
      { content := .text <|
          "\x7b\"interfaces\":[\x7b\"name\":\"Notes\",\"methods\":[\x7b\"name\":\"notes\",\"return-type\":\x7b\"name\":\"Note\"\x7d," ++
            "\"annotations\":[\x7b\"memory\":\x7b\x7d\x7d]\x7d]\x7d]\x7d" })]

/-- Nothing is written when the default settings are no text, when the document may not be read and when it breaks off; and the report on
the document counts what is printed of it. -/
theorem notesWorkspace_checked :
    (∀ output, ∃ f, (resolving "notes.json" none output).apply none notesWorkspace = (.failed f, notesWorkspace)) ∧
      (∀ output, ∃ f,
        (resolving "locked.json" (some "empty.toml") output).apply none notesWorkspace = (.failed f, notesWorkspace)) ∧
      (∀ output, ∃ f,
        (resolving "broken.json" (some "empty.toml") output).apply none notesWorkspace = (.failed f, notesWorkspace)) ∧
      ((checking "notes.json" (some "empty.toml")).apply none notesWorkspace).1.stdout = "OK notes.json (1 interfaces, 1 requests)\n" ∧
      ∃ json, Json.IsTextOf ((resolving "notes.json" (some "empty.toml") none).apply none notesWorkspace).1.stdout json ∧
        "OK notes.json (1 interfaces, 1 requests)\n" =
          "OK " ++ "notes.json" ++ " (" ++ toString (writtenInterfaces json).length ++ " interfaces, " ++
            toString ((writtenInterfaces json).flatMap writtenRequests).length ++ " requests)\n" := by
  have hdefault : notesWorkspace.lookup defaultSettings = .ok (.unreadable .notText) := by decide +kernel
  have hsettings : Obstacle notesWorkspace none "notes.json" := .settings ⟨⟨_, hdefault⟩, .unreadable hdefault⟩
  have hlocked : Obstacle notesWorkspace (some "empty.toml") "locked.json" :=
    @Obstacle.unreadable _ _ _ .denied (by decide +kernel)
  have hbroken : Obstacle notesWorkspace (some "empty.toml") "broken.json" :=
    @Obstacle.malformed _ _ _ "[" .endInList (by decide +kernel) (by decide +kernel)
  have hchecked : ((checking "notes.json" (some "empty.toml")).apply none notesWorkspace).1 =
      ⟨0, "OK notes.json (1 interfaces, 1 requests)\n", ""⟩ := by
    decide +kernel
  have hstdout := congrArg Outcome.stdout hchecked
  have hfails : ∀ settings document, Obstacle notesWorkspace settings document → ∀ output, ∃ f,
      (resolving document settings output).apply none notesWorkspace = (.failed f, notesWorkspace) := by
    intro settings document h
    refine (checks_what_resolve_writes notesWorkspace none settings document).1 ?_
    rwa [Option.or_none]
  obtain ⟨-, -, -, hcounts⟩ := checks_what_resolve_writes notesWorkspace none (some "empty.toml") "notes.json"
  obtain ⟨⟨json, hjson⟩, hreport⟩ := hcounts (congrArg Outcome.exit hchecked)
  exact ⟨hfails _ _ hsettings, hfails _ _ hlocked, hfails _ _ hbroken, hstdout, json, hjson, hstdout.symm.trans (hreport json hjson)⟩

end Command

end DataRequests
