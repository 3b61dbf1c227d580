import DataRequests.Source

/-!
# Faults

What can be wrong with a method, each cause a constructor. A fault has a code and a message; a `ResolutionError` is a fault
with the interface and the method that it is about.
-/

namespace DataRequests

/-- What contradicts the binding of a handle in the constructor. -/
inductive BindingConflict where
  | targetedController
  | untargetedSources (reference : String)
  deriving DecidableEq, Repr

/-- What is wrong with a method. -/
inductive Fault where
  | missingSourceIntent (isController : Bool)
  /-- No method provides the handle; `reusesAnother` is what a method of that name reuses itself. -/
  | danglingReuse (target : String) (reusesAnother : Option String)
  | ambiguousReuse (target : String) (count : Nat)
  | reuseTypeMismatch (target expected found : String)
  | conflictingStorage
  | duplicateSpecialParameter (role : String) (parameters : List String)
  | invalidReturnType (returnType reason : String)
  | duplicateMethod
  | duplicateInterface
  | providerShapeMismatch (target : String) (expected found : List String)
  | bindingConflict (conflict : BindingConflict)
  | repeatedMarker (name : String)
  | malformedOptions (kind : SourceKind) (detail : String)
  | targetsWithoutSource
  | noStorageForLookup
  | parametersOnController (count : Nat)
  | unknownProviderTarget (target : String)
  | unavailableSource (kind : SourceKind) (reference : String)
  | unresolvedReuse (target : String)
  deriving DecidableEq, Repr

/-- The code of a fault. -/
def Fault.code : Fault → String
  | .missingSourceIntent .. => "D001"
  | .danglingReuse .. => "D002"
  | .ambiguousReuse .. => "D003"
  | .reuseTypeMismatch .. => "D004"
  | .conflictingStorage => "D005"
  | .duplicateSpecialParameter .. => "D006"
  | .invalidReturnType .. => "D007"
  | .duplicateMethod => "D008"
  | .duplicateInterface => "D009"
  | .providerShapeMismatch .. => "D010"
  | .bindingConflict .. => "D011"
  | .repeatedMarker .. => "D012"
  | .malformedOptions .. => "D013"
  | .targetsWithoutSource => "D014"
  | .noStorageForLookup => "D015"
  | .parametersOnController .. => "D016"
  | .unknownProviderTarget .. => "D017"
  | .unavailableSource .. => "D018"
  | .unresolvedReuse .. => "D019"

/-- The wording of a conflict. -/
def BindingConflict.message : BindingConflict → String
  | .targetedController => "A controller reference cannot be targeted"
  | .untargetedSources reference =>
    "The handle of '" ++ reference ++
      "' is bound in the constructor, so direct source annotations need targets"

/-- Names as a sentence lists them: with commas, and with "and" before the last one. -/
def joinNames (names : List String) : String :=
  match names.reverse with
  | [] => ""
  | [only] => only
  | last :: earlier => ", ".intercalate earlier.reverse ++ " and " ++ last

/-- The wording of a fault. -/
def Fault.message : Fault → String
  | .missingSourceIntent true =>
    "A controller reference that is not bound in the constructor must declare its sources"
  | .missingSourceIntent false =>
    "No source declared: annotate the method with a source, reuse another method, or mark it as a controller reference"
  | .danglingReuse target none => "Could not find source '" ++ target ++ "'"
  | .danglingReuse target (some other) =>
    "Could not find source '" ++ target ++ "': '" ++ target ++ "' reuses '" ++ other ++
      "' itself, and reuse is resolved one level deep only"
  | .unresolvedReuse target => "Reuse of '" ++ target ++ "' refers to a method that failed to resolve"
  | .ambiguousReuse target count =>
    "Reuse of '" ++ target ++ "' is ambiguous: " ++ toString count ++ " methods provide that handle"
  | .reuseTypeMismatch target expected found =>
    "Reuse of '" ++ target ++ "' expects data type '" ++ expected ++ "', but this method returns '" ++ found ++ "'"
  | .conflictingStorage => "The key-value store and the database cannot both be enabled on one method"
  | .duplicateSpecialParameter role parameters =>
    "Only one " ++ role ++ " parameter is allowed, found " ++ joinNames parameters
  | .invalidReturnType returnType reason => "Invalid return type '" ++ returnType ++ "': " ++ reason
  | .duplicateMethod => "Duplicate method definition"
  | .duplicateInterface => "Duplicate interface definition"
  | .providerShapeMismatch target expected found =>
    "Parameters do not match those of '" ++ target ++ "': expected [" ++ ", ".intercalate expected ++ "], found [" ++
      ", ".intercalate found ++ "]"
  | .bindingConflict conflict => conflict.message
  | .repeatedMarker name => "Annotation '" ++ name ++ "' is specified more than once"
  | .malformedOptions kind detail => "Invalid " ++ kind.name ++ " options: " ++ detail
  | .targetsWithoutSource => "A targeted request must declare at least one source directly"
  | .noStorageForLookup => "A synchronous lookup needs memory, database, or key-value-store storage"
  | .parametersOnController count =>
    "A controller reference cannot take parameters, found " ++ toString count
  | .unknownProviderTarget target =>
    "Params provider target '" ++ target ++ "' is not a request method of this interface"
  | .unavailableSource kind reference =>
    "The " ++ kind.name ++ " source is declared, but the handle of '" ++ reference ++ "' does not enable it"

/-- A fault of a method, or of an interface, which then stands for the method too. -/
structure ResolutionError where
  interface : String
  method : String
  fault : Fault
  deriving DecidableEq, Repr

/-- The wording of an error: the fault and where it is. -/
def ResolutionError.message (e : ResolutionError) : String :=
  e.fault.message ++ " (in `" ++ e.interface ++ "." ++ e.method ++ "`)"

end DataRequests
