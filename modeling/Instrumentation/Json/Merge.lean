import Instrumentation.Json

/-!
# Layered JSON values

One value laid over another: objects are merged key by key, a null leaves what lies under it,
and any other value takes the place of what lies under it.
-/

namespace Instrumentation.Json

/-- The empty value. -/
def isNull : Json → Bool
  | null => true
  | _ => false

mutual

/-- The value `source` laid over `target`. -/
def merge (target source : Json) : Json :=
  match target, source with
  | object ms, object ⟨ns⟩ => object (mergeMembers ms ns)
  | _, source => source
termination_by structural source

/-- Members laid over a dictionary one after the other. -/
def mergeMembers {low : Option String} (target : Dict Json) (source : Chain Json low) :
    Dict Json :=
  match source with
  | .nil => target
  | .cons k _ x rest =>
    let merged :=
      if x.isNull then target
      else
        match target.get? k with
        | some old => target.insert k (merge old x)
        | none => target.insert k x
    mergeMembers merged rest
termination_by structural source

end

end Instrumentation.Json
