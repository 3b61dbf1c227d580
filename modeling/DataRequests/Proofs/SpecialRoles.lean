import DataRequests.Proofs.Sources
import DataRequests.Resolution.SpecialParameters
import Mathlib.Data.List.Forall2
import Mathlib.Data.List.Nodup

/-!
# Special roles

A parameter plays at most one special role (`ParameterRole.special?`), so the special parameters of a method fall into groups, one for
each role. A fault is reported for each group of several parameters, in the order of the roles, with the declared names of the group
(`specialParameterFaults_by_role`). The order of the parameters changes nothing but the order of these names.
-/

namespace DataRequests

/-- The special role that a parameter of a role plays: none for a query or a callback, and that of its kind for a payload. -/
def ParameterRole.special? : ParameterRole → Option SpecialRole
  | .query | .callback => none
  | .errorFilter => some .errorFilter
  | .sourcePayload kind _ => some (.payload kind)
  | .opaqueSourceParams => some .sourceParams

/-- The special roles that parameters play, in order, each as often as it is played. -/
def playedRoles (parameters : List ResolvedParameter) : List SpecialRole :=
  parameters.filterMap (·.role.special?)

/-- Two faults report several parameters with one special role, and list the same names up to their order. -/
def Fault.ReportsAlike (fault fault' : Fault) : Prop :=
  ∃ (role : SpecialRole) (names names' : List String), names.Perm names' ∧
    fault = .duplicateSpecialParameter role.name names ∧ fault' = .duplicateSpecialParameter role.name names'

namespace SpecialRole

variable (role : SpecialRole) (parameters : List ResolvedParameter)

/-- Every special role is in the list of them. -/
theorem mem_all : role ∈ SpecialRole.all := by
  cases role with
  | errorFilter => simp [all]
  | sourceParams => simp [all]
  | payload kind => simp [all, SourceKind.mem_all]

/-- The words for a role tell it apart. -/
theorem name_injective : Function.Injective name := by
  have hnames : (SpecialRole.all.map name).Nodup := by decide
  intro role role' hname
  exact List.inj_on_of_nodup_map hnames role.mem_all role'.mem_all hname

/-- A role is played by the parameters whose special role it is. -/
theorem isPlayedBy_iff (p : ResolvedParameter) : role.isPlayedBy p = true ↔ p.role.special? = some role := by
  unfold isPlayedBy ParameterRole.special?
  cases role <;> cases p.role <;> simp [eq_comm]

/-- The players of a role are the parameters whose special role it is. -/
theorem players_eq : role.players parameters = (parameters.filter (·.role.special? = some role)).map (·.declaredName) := by
  rw [players]
  congr 1
  refine List.filter_congr fun p _ => ?_
  rw [Bool.eq_iff_iff, role.isPlayedBy_iff, decide_eq_true_iff]

/-- A role is played as often as parameters play it. -/
theorem count_playedRoles : (playedRoles parameters).count role = parameters.countP role.isPlayedBy := by
  rw [playedRoles, List.count_filterMap]
  refine List.countP_congr fun p _ => ?_
  rw [beq_iff_eq, role.isPlayedBy_iff]

end SpecialRole

variable (parameters : List ResolvedParameter)

/-- A fault is reported for each role with several players, with the names of these. -/
theorem specialParameterFaults_eq_map :
    specialParameterFaults parameters =
      (SpecialRole.all.filter fun role => 1 < parameters.countP role.isPlayedBy).map fun role =>
        .duplicateSpecialParameter role.name (role.players parameters) := by
  rw [specialParameterFaults, ← List.filterMap_eq_map, List.filterMap_filter]
  refine List.filterMap_congr fun role _ => ?_
  simp [SpecialRole.fault?, SpecialRole.players, List.countP_eq_length_filter]

/-- Nothing is reported exactly when no special role is played twice. -/
theorem specialParameterFaults_eq_nil_iff : specialParameterFaults parameters = [] ↔ (playedRoles parameters).Nodup := by
  rw [specialParameterFaults_eq_map, List.map_eq_nil_iff, List.filter_eq_nil_iff, List.nodup_iff_count_le_one]
  simp only [SpecialRole.mem_all, SpecialRole.count_playedRoles, decide_eq_true_eq, Nat.not_lt, forall_const]

/-- Parameters that query or receive the result count for no special role. -/
theorem specialParameterFaults_filter :
    specialParameterFaults (parameters.filter fun p => p.role ≠ .query ∧ p.role ≠ .callback) = specialParameterFaults parameters := by
  have hplayers : ∀ role : SpecialRole,
      (parameters.filter fun p => p.role ≠ .query ∧ p.role ≠ .callback).filter role.isPlayedBy = parameters.filter role.isPlayedBy := by
    intro role
    rw [List.filter_filter]
    refine List.filter_congr fun p _ => ?_
    unfold SpecialRole.isPlayedBy
    cases role <;> cases p.role <;> simp
  unfold specialParameterFaults SpecialRole.fault? SpecialRole.players
  simp only [hplayers]

/-- The order of parameters decides the order of the names alone. -/
theorem specialParameterFaults_of_perm {parameters parameters' : List ResolvedParameter} (h : parameters.Perm parameters') :
    List.Forall₂ Fault.ReportsAlike (specialParameterFaults parameters) (specialParameterFaults parameters') := by
  have hcount : ∀ role : SpecialRole, parameters.countP role.isPlayedBy = parameters'.countP role.isPlayedBy :=
    fun role => h.countP_eq _
  have hnames : ∀ role : SpecialRole, (role.players parameters).Perm (role.players parameters') :=
    fun role => (h.filter _).map _
  simp only [specialParameterFaults_eq_map, hcount]
  rw [List.forall₂_map_left_iff, List.forall₂_map_right_iff, List.forall₂_same]
  intro role _
  exact ⟨role, _, _, hnames role, rfl, rfl⟩

/-- **A special role is played by one parameter.** Each role that several parameters play is reported once, in the order of the roles and
in words that tell them apart, with the declared names of its parameters in order. So nothing is reported exactly when no special role
is played twice; queries and callbacks do not count; and in another order of the parameters the same roles are reported in the same
order, each with the same names in another order. -/
theorem specialParameterFaults_by_role :
    specialParameterFaults parameters =
        ([SpecialRole.errorFilter, .sourceParams, .payload .network, .payload .database, .payload .memory,
            .payload .keyValueStore].filter fun role => 2 ≤ (playedRoles parameters).count role).map (fun role =>
          .duplicateSpecialParameter role.name ((parameters.filter (·.role.special? = some role)).map (·.declaredName))) ∧
      Function.Injective SpecialRole.name ∧
      (specialParameterFaults parameters = [] ↔ (playedRoles parameters).Nodup) ∧
      specialParameterFaults (parameters.filter fun p => p.role ≠ .query ∧ p.role ≠ .callback) = specialParameterFaults parameters ∧
      ∀ parameters', parameters.Perm parameters' →
        List.Forall₂ Fault.ReportsAlike (specialParameterFaults parameters) (specialParameterFaults parameters') := by
  refine ⟨?_, SpecialRole.name_injective, specialParameterFaults_eq_nil_iff parameters, specialParameterFaults_filter parameters,
    fun _ => specialParameterFaults_of_perm⟩
  simp only [← SpecialRole.players_eq, SpecialRole.count_playedRoles]
  exact specialParameterFaults_eq_map parameters

/-- Parameters of which some share a special role: two payloads for the network, one with source parameters and one without, and two
error filters. -/
def crowdedParameters : List ResolvedParameter :=
  [⟨"body", "body", "Body", .sourcePayload .network true⟩, ⟨"lenient", "lenient", "ErrorFilter", .errorFilter⟩,
    ⟨"onResult", "onResult", "Callback", .callback⟩, ⟨"row", "row", "Row", .sourcePayload .database false⟩,
    ⟨"form", "form", "Form", .sourcePayload .network false⟩, ⟨"onDone", "onDone", "Callback", .callback⟩,
    ⟨"strict", "strict", "ErrorFilter", .errorFilter⟩]

/-- Both roles are reported, and in the opposite order of the parameters too. -/
theorem crowdedParameters_reported :
    specialParameterFaults crowdedParameters =
        [.duplicateSpecialParameter "error filter" ["lenient", "strict"],
          .duplicateSpecialParameter "network payload" ["body", "form"]] ∧
      crowdedParameters.Perm crowdedParameters.reverse ∧
      List.Forall₂ Fault.ReportsAlike (specialParameterFaults crowdedParameters)
        (specialParameterFaults crowdedParameters.reverse) := by
  have hperm : crowdedParameters.Perm crowdedParameters.reverse := crowdedParameters.reverse_perm.symm
  obtain ⟨hreported, -, -, -, hreordered⟩ := specialParameterFaults_by_role crowdedParameters
  exact ⟨hreported.trans (by decide), hperm, hreordered _ hperm⟩

end DataRequests
