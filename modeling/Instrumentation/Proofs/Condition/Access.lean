import Instrumentation.Proofs.Condition.Evaluation

/-!
# Members by name and by key

A member of a value is named after a dot, or given as a text between brackets. The ways to evaluate
the two differ: the position comes before the base, and only the dot takes a short way into the
scope of an unshadowed root. Both lead to the same value, and fail on the same occasions.
-/

namespace Instrumentation

namespace Condition

variable {f : Frame}

/-- A text between brackets is looked up as a member of the value of the base. -/
theorem evaluate_index_text (f : Frame) (base : Expr) (name : String) :
  evaluate f (.index base (.literal (.string name)))
    = (do
        let v ← evaluate f base
        found (.index base (.literal (.string name))) (v.member? name))
  := rfl

/-- A root leads to the captured value that shadows it, or else to its scope. -/
theorem evaluate_root {root : String} {s : Scope} (addressed : Scope.ofRoot? root = some s) :
  evaluate f (.var root) = .ok ((f.resolve? root).getD (.object (f.scope s)))
  := by
  rw [evaluate, binding?]
  cases f.resolve? root with
  | none => rw [addressed]; rfl
  | some v => rfl

end Condition

open Condition

/-- A member named after a dot and one given as a text between brackets are the same. If the base
fails, both fail as it does; if its value has the member, both are the member; and otherwise both
fail to find it. A root that addresses a scope is a base like any other: its value is the captured
one that shadows it, and if there is none, its scope as an object. -/
theorem members_by_name_and_key (f : Frame) (e : Expr) (name : String) :
  (match evaluate f e with
    | .error err =>
      evaluate f (.member e name) = .error err
        ∧ evaluate f (.index e (.literal (.string name))) = .error err
    | .ok v =>
      match v.member? name with
      | some x =>
        evaluate f (.member e name) = .ok x
          ∧ evaluate f (.index e (.literal (.string name))) = .ok x
      | none =>
        evaluate f (.member e name) = .error (.undefinedVariable (e.path ++ "." ++ name))
          ∧ evaluate f (.index e (.literal (.string name)))
            = .error (.undefinedVariable (e.path ++ "[..]")))
    ∧ ∀ root s, e = .var root → Scope.ofRoot? root = some s
      → evaluate f e = .ok ((f.resolve? root).getD (.object (f.scope s)))
  := by
  constructor
  · rw [evaluate_member, evaluate_index_text]
    cases evaluate f e with
    | error err => exact ⟨rfl, rfl⟩
    | ok v =>
      dsimp only
      split
      next x held => exact ⟨congrArg (found _) held, congrArg (found _) held⟩
      next held => exact ⟨congrArg (found _) held, congrArg (found _) held⟩
  · rintro root s rfl addressed
    exact evaluate_root addressed

/-- A frame with a field, and with a variable whose name is the root of the fields. -/
def Frame.ofShadow : Frame :=
  (empty.put .fields "total" (.ofNat 2)).put .locals "fields" (.ofMembers [("total", .ofNat 7)])

/-- The variable shadows the root of the fields, and nothing shadows that of the variables. -/
theorem members_by_name_and_key_shadowed :
  evaluate .ofShadow (.var "fields") = .ok (.ofMembers [("total", .ofNat 7)])
    ∧ evaluate .ofShadow (.member (.var "fields") "total") = .ok (.ofNat 7)
    ∧ evaluate .ofShadow (.index (.var "fields") (.literal (.string "total"))) = .ok (.ofNat 7)
    ∧ evaluate .ofShadow (.var "localVariables")
      = .ok (.ofMembers [("fields", .ofMembers [("total", .ofNat 7)])])
    ∧ evaluate .ofShadow (.member (.var "localVariables") "total")
      = .error (.undefinedVariable "localVariables.total")
    ∧ evaluate .ofShadow (.index (.var "localVariables") (.literal (.string "total")))
      = .error (.undefinedVariable "localVariables[..]")
  := by
  obtain ⟨shadowed, addressed⟩ := members_by_name_and_key .ofShadow (.var "fields") "total"
  obtain ⟨unshadowed, addressed'⟩ :=
    members_by_name_and_key .ofShadow (.var "localVariables") "total"
  have value := addressed "fields" .fields rfl rfl
  have value' := addressed' "localVariables" .locals rfl rfl
  rw [value] at shadowed
  rw [value'] at unshadowed
  exact ⟨value, shadowed.1, shadowed.2, value', unshadowed.1, unshadowed.2⟩

end Instrumentation
