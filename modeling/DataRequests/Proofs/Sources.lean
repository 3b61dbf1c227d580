import DataRequests.Defaults

/-!
# Which kinds are enabled and declared

Statements about `SourceConfigs` seen as two sets of kinds, the enabled ones and the declared ones. Switching kinds on and
filling in defaults are told apart here once: the first changes the enabled kinds alone, the second neither set.
-/

namespace DataRequests

namespace SourceKind

/-- Every kind is listed. -/
@[simp]
theorem mem_all (kind : SourceKind) : kind ∈ all := by
  cases kind <;> decide

/-- Every kind has its place in construction order. -/
@[simp]
theorem mem_constructionOrder (kind : SourceKind) : kind ∈ constructionOrder := by
  cases kind <;> decide

end SourceKind

namespace SourceConfigs

/-- What `withEnabled` enables is what its predicate gives. -/
@[simp]
theorem isEnabled_withEnabled (s : SourceConfigs) (enabled : SourceKind → Bool) (kind : SourceKind) :
    (s.withEnabled enabled).isEnabled kind = enabled kind := by
  cases kind <;> rfl

/-- Switching kinds on or off declares nothing. -/
@[simp]
theorem isDeclared_withEnabled (s : SourceConfigs) (enabled : SourceKind → Bool) :
    (s.withEnabled enabled).isDeclared = s.isDeclared := by
  funext kind
  cases kind <;> rfl

/-- Defaults enable nothing. -/
@[simp]
theorem isEnabled_withDefaults (s : SourceConfigs) (d : Defaults) : (s.withDefaults d).isEnabled = s.isEnabled := by
  funext kind
  cases kind <;> rfl

/-- Defaults declare nothing. -/
@[simp]
theorem isDeclared_withDefaults (s : SourceConfigs) (d : Defaults) : (s.withDefaults d).isDeclared = s.isDeclared := by
  funext kind
  cases kind <;> rfl

/-- A method declares any kind exactly when there is one that it declares. -/
theorem declaresAny_iff (s : SourceConfigs) : s.declaresAny = true ↔ ∃ kind, s.isDeclared kind = true := by
  simp [declaresAny]

/-- The declared kinds decide whether any is declared. -/
theorem declaresAny_congr {s s' : SourceConfigs} (h : s.isDeclared = s'.isDeclared) :
    s.declaresAny = s'.declaresAny := by
  rw [declaresAny, declaresAny, h]

@[simp]
theorem mem_declaredKinds (s : SourceConfigs) (kind : SourceKind) :
    kind ∈ s.declaredKinds ↔ s.isDeclared kind = true := by
  simp [declaredKinds]

end SourceConfigs

end DataRequests
