import Instrumentation.Identifier
import Instrumentation.Decimal

/-!
# Causes of failure

What the transform engine reports, what goes wrong with a condition, and what callers of
installs and removals see. The last wraps the other two. Each cause has one wording.
-/

namespace Instrumentation

/-- A failure that the transform engine reports. -/
inductive TransformError where
  /-- The unit is not loaded, or no longer. -/
  | unitNotFound (unit : String)
  /-- The engine refuses to patch the unit, with its reason. -/
  | rejected (unit reason : String)
  /-- Any other failure. -/
  | internal (reason : String)
deriving DecidableEq, Inhabited

/-- The wording of a failure of the transform engine. -/
def TransformError.message : TransformError → String
  | unitNotFound unit => "unit not found: " ++ unit
  | rejected unit reason => "transform rejected for '" ++ unit ++ "': " ++ reason
  | internal reason => reason

/-- A failure to read or to evaluate a condition. -/
inductive ConditionError where
  /-- The text does not parse, from a byte offset on. -/
  | malformed (position : Nat) (reason : String)
  /-- A path leads to no value. -/
  | undefinedVariable (path : String)
  /-- An operator does not apply to values of these types. -/
  | typeMismatch (op left right : String)
  /-- A value of this type stands where a truth value must. -/
  | notBoolean (found : String)
  /-- A quotient or remainder by zero. -/
  | divisionByZero
  /-- The result of an operator is no number. -/
  | nonFinite (op : String)
deriving DecidableEq, Inhabited

/-- The wording of a failure of a condition. -/
def ConditionError.message : ConditionError → String
  | malformed position reason =>
    "syntax error at offset " ++ String.ofList (Decimal.digits position) ++ ": " ++ reason
  | undefinedVariable path => "undefined variable: " ++ path
  | typeMismatch op left right =>
    "cannot apply '" ++ op ++ "' to " ++ left ++ " and " ++ right
  | notBoolean found => "expected boolean, found " ++ found
  | divisionByZero => "division by zero"
  | nonFinite op => "'" ++ op ++ "' produced a non-finite number"

/-- A failure to install, to remove or to evaluate an instrument, or to read a command. -/
inductive InstrumentError where
  /-- The condition does not parse. -/
  | conditionInvalid (id : InstrumentId) (source : ConditionError)
  /-- The unit is not loaded, and the instrument does not wait for it. -/
  | targetNotFound (id : InstrumentId) (unit : String)
  /-- The unit could not be patched. -/
  | patchFailed (id : InstrumentId) (source : TransformError)
  /-- The condition failed on a hit. -/
  | evaluationFailed (id : InstrumentId) (source : ConditionError)
  /-- The patch could not be taken out. -/
  | unpatchFailed (id : InstrumentId) (source : TransformError)
  /-- The unit was not loaded at any attempt. -/
  | retriesExhausted (id : InstrumentId) (attempts : UInt32)
  /-- The command could not be read. -/
  | invalidCommand (cause : String)
deriving DecidableEq, Inhabited

namespace InstrumentError

/-- The wording of a failure. -/
def message : InstrumentError → String
  | conditionInvalid id source =>
    "invalid condition for instrument " ++ id ++ ": " ++ source.message
  | targetNotFound id unit => "target unit '" ++ unit ++ "' not found for instrument " ++ id
  | patchFailed id source => "patch failed for instrument " ++ id ++ ": " ++ source.message
  | evaluationFailed id source =>
    "condition evaluation failed for instrument " ++ id ++ ": " ++ source.message
  | unpatchFailed id source => "unpatch failed for instrument " ++ id ++ ": " ++ source.message
  | retriesExhausted id attempts =>
    "instrument " ++ id ++ " not applied after "
      ++ String.ofList (Decimal.digits attempts.toNat) ++ " attempts"
  | invalidCommand cause => "invalid command: " ++ cause

/-- The code by which programs tell failures apart. -/
def code : InstrumentError → String
  | conditionInvalid _ _ => "CONDITION_INVALID"
  | targetNotFound _ _ => "TARGET_NOT_FOUND"
  | patchFailed _ _ => "PATCH_FAILED"
  | evaluationFailed _ _ => "EVALUATION_FAILED"
  | unpatchFailed _ _ => "UNPATCH_FAILED"
  | retriesExhausted _ _ => "RETRIES_EXHAUSTED"
  | invalidCommand _ => "INVALID_COMMAND"

/-- The failure ends an install without a live instrument. -/
def isFatal : InstrumentError → Bool
  | evaluationFailed _ _ => false
  | unpatchFailed _ _ => false
  | _ => true

/-- The instrument that failed. -/
def id? : InstrumentError → Option InstrumentId
  | conditionInvalid id _ => some id
  | targetNotFound id _ => some id
  | patchFailed id _ => some id
  | evaluationFailed id _ => some id
  | unpatchFailed id _ => some id
  | retriesExhausted id _ => some id
  | invalidCommand _ => none

/-- The wording of the failure beneath. -/
def source? : InstrumentError → Option String
  | conditionInvalid _ source => some source.message
  | patchFailed _ source => some source.message
  | evaluationFailed _ source => some source.message
  | unpatchFailed _ source => some source.message
  | _ => none

end InstrumentError

end Instrumentation
