import Instrumentation.Json.Merge
import Instrumentation.Proofs.Json.Decode

/-!
# What a layered value holds

A null counts as no member. Under every key, an object laid over another one shows its own member,
laid over the member of the other one if there are both, and shows the member of the other one where
it has none. An object without members leaves everything as it is.
-/

namespace Instrumentation

/-- Each of the listed entries is found under its key, if no key is listed twice. -/
theorem Dict.get?_ofList_of_mem {α : Type} {es : List (String × α)} {k : String} {a : α}
    (distinct : (es.map Prod.fst).Nodup) (mem : (k, a) ∈ es) :
  (Dict.ofList es).get? k = some a
  := by
  rw [Dict.get?_ofList distinct]
  induction es with
  | nil => cases mem
  | cons e es ih =>
    obtain ⟨j, b⟩ := e
    obtain ⟨new, distinct⟩ := List.nodup_cons.mp distinct
    rw [List.lookup_cons]
    rcases List.mem_cons.mp mem with own | later
    · obtain ⟨rfl, rfl⟩ := Prod.mk.inj own
      simp
    · have other : (k == j) = false := by
        apply beq_false_of_ne
        rintro rfl
        exact new (List.mem_map.mpr ⟨_, later, rfl⟩)
      rw [other]
      exact ih distinct later

namespace Json

variable {t : Dict Json} {low : Option String} {j k : String} {old x : Json}

/-- A value that counts: any but null. -/
def substantial (x : Json) : Bool := !x.isNull

/-- A member of an object that is not null. -/
def given? (v : Json) (k : String) : Option Json := (v.member? k).filter substantial

/-- What is given is a member that is not null. -/
theorem given_iff {v : Json} :
  v.given? k = some x ↔ v.member? k = some x ∧ x ≠ null
  := by
  rw [given?, Option.filter_eq_some_iff, substantial]
  cases x with
  | null => simp [isNull]
  | _ => simp [isNull]

/-- A member that is given is not null. -/
theorem ne_null_of_given {v : Json} (given : v.given? k = some x) :
  x ≠ null
  := (given_iff.mp given).2

/-- Nothing is given if there is no member but null. -/
theorem given_none {v : Json} (missing : v.member? k = none ∨ v.member? k = some null) :
  v.given? k = none
  := by
  apply Option.eq_none_iff_forall_ne_some.mpr
  intro x given
  obtain ⟨member, counts⟩ := given_iff.mp given
  rcases missing with none | isNull
  · cases none.symm.trans member
  · exact counts (Option.some.inj (member.symm.trans isNull))

/-- What is no object is covered by any value laid over it. -/
theorem merge_of_not_object (target : Json) (x : Json) (plain : ∀ ms, target ≠ object ms) :
  merge target x = x
  := by
  cases target with
  | object ms => exact absurd rfl (plain ms)
  | _ => rw [merge]; nofun

/-- What is no object covers any value under it. -/
theorem merge_of_plain (target : Json) (plain : ∀ ns, x ≠ object ns) :
  merge target x = x
  := by
  cases x with
  | object ns => exact absurd rfl (plain ns)
  | _ => rw [merge]; intro _ _ _; nofun

/-- One member laid over a dictionary is seen under its own key, unless it is null. -/
theorem get?_mergeMembers_singleton (beyond : Beyond low j) :
  (mergeMembers t (.cons j beyond x .nil)).get? k
    = if k = j ∧ x.substantial then some ((t.get? j).elim x fun old => merge old x) else t.get? k
  := by
  rw [mergeMembers, mergeMembers, substantial]
  cases x.isNull with
  | true => simp
  | false =>
    cases t.get? j with
    | none => simp [Dict.get?_insert]
    | some old => simp [Dict.get?_insert]

/-- Members laid over a dictionary are seen under their keys, unless they are null. -/
theorem get?_mergeMembers (ns : Chain Json low) :
  (mergeMembers t ns).get? k
    = ((ns.entries.lookup k).filter substantial).elim (t.get? k) fun x =>
        some ((t.get? k).elim x fun old => merge old x)
  := by
  induction ns generalizing t with
  | nil => rw [mergeMembers]; rfl
  | cons j beyond x rest ih =>
    change (mergeMembers (mergeMembers t (.cons j beyond x .nil)) rest).get? k = _
    rw [ih, get?_mergeMembers_singleton, Chain.entries_cons, List.lookup_cons]
    by_cases own : k = j
    · subst own
      rw [rest.lookup_self]
      cases counts : x.substantial with
      | true => simp [Option.filter, counts]
      | false => simp [Option.filter, counts]
    · have other : (k == j) = false := beq_false_of_ne own
      simp [own, other]

/-- Under each key, the object `ns` laid over the object `ms` shows the member of `ns` laid over
that of `ms`, or over null for want of one. If `ns` gives none, it shows what `ms` has there. -/
theorem member?_merge (ms ns : Dict Json) (k : String) :
  (merge (object ms) (object ns)).member? k
    = ((object ns).given? k).elim (ms.get? k) fun x => some (merge ((ms.get? k).getD null) x)
  := by
  have overNull (x : Json) : merge null x = x := merge_of_not_object null x nofun
  rw [merge, member?, get?_mergeMembers]
  change ((ns.get? k).filter substantial).elim _ _ = ((ns.get? k).filter substantial).elim _ _
  cases ms.get? k with
  | none => simp [overNull]
  | some old => rfl

/-- The object `ns` laid over the object `ms` is an object. Under each key of `ms` it shows the
member of `ns` laid over that of `ms`, or that of `ms` if `ns` gives none. -/
theorem merge_objects (ms ns : Dict Json) :
  ∃ merged : Dict Json, merge (object ms) (object ns) = object merged
    ∧ ∀ k old, ms.get? k = some old
      → merged.get? k = some (((object ns).given? k).elim old (merge old))
  := by
  use mergeMembers ms ns.chain
  have merged : merge (object ms) (object ns) = object (mergeMembers ms ns.chain) := by rw [merge]
  refine ⟨merged, ?_⟩
  intro k old found
  have shown := member?_merge ms ns k
  rw [merged, member?, found] at shown
  rw [shown]
  cases (object ns).given? k with
  | none => rfl
  | some x => rfl

end Json

end Instrumentation
