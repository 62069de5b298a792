import Instrumentation.Proofs.Json.Merge

/-!
# Layers along a path of keys

A path of keys leads from an object to one of its members, from there to one of the members of that,
and so on. Of a value laid over another one, everything that is neither an object nor null is seen
where it stands. Where it has nothing or null, among objects on both sides, what lies under it is
seen. Laid over the result once more, it changes nothing.
-/

namespace Instrumentation.Json

variable {t s v x : Json} {k : String} {path : List String}

/-! ### Places -/

/-- What stands at the end of a path of keys. -/
def follow? : Json → List String → Option Json
  | v, [] => some v
  | v, k :: path => (v.member? k).bind fun x => x.follow? path

/-- Objects stand at all places before the end of the path. -/
def ObjectsAlong (v : Json) (path : List String) : Prop :=
  ∀ p, p <+: path → p ≠ path → ∃ ms, v.follow? p = some (object ms)

/-- A path of one key leads to a member. -/
theorem follow?_singleton (v : Json) (k : String) :
  v.follow? [k] = v.member? k
  := by
  rw [follow?]
  cases v.member? k with
  | none => rfl
  | some x => rfl

/-- A path goes on from the member under its first key. -/
theorem follow?_cons (member : v.member? k = some x) :
  v.follow? (k :: path) = x.follow? path
  := by rw [follow?, member, Option.bind_some]

/-- Only an object has members. -/
theorem eq_object_of_member (member : v.member? k = some x) :
  ∃ ms, v = object ms ∧ ms.get? k = some x
  := by
  cases v with
  | object ms => exact ⟨ms, rfl, member⟩
  | _ => cases member

/-- Null has nothing within it. -/
theorem eq_null_of_follow (found : null.follow? path = some x) :
  x = null
  := by
  cases path with
  | nil => exact (Option.some.inj found).symm
  | cons k path => cases found

/-- The first of the objects along a path. -/
theorem ObjectsAlong.eq_object (along : v.ObjectsAlong (k :: path)) :
  ∃ ms, v = object ms
  := by
  obtain ⟨ms, found⟩ := along [] List.nil_prefix nofun
  exact ⟨ms, Option.some.inj found⟩

/-- The objects along a path after the first one. -/
theorem ObjectsAlong.tail {ms : Dict Json} (along : (object ms).ObjectsAlong (k :: path))
    (goesOn : path ≠ []) :
  ∃ x, ms.get? k = some x ∧ x.ObjectsAlong path
  := by
  have within (p : List String) (before : p <+: path) (ne : p ≠ path) :
      ∃ x ns, ms.get? k = some x ∧ x.follow? p = some (object ns) := by
    have reaches := along (k :: p) (List.cons_prefix_cons.mpr ⟨rfl, before⟩)
      fun eq => ne (List.cons.inj eq).2
    obtain ⟨ns, found⟩ := reaches
    obtain ⟨x, member, rest⟩ := Option.bind_eq_some_iff.mp found
    exact ⟨x, ns, member, rest⟩
  obtain ⟨x, _, member, -⟩ := within [] List.nil_prefix goesOn.symm
  refine ⟨x, member, ?_⟩
  intro p before ne
  obtain ⟨y, ns, member', rest⟩ := within p before ne
  obtain rfl := Option.some.inj (member.symm.trans member')
  exact ⟨ns, rest⟩

/-- An object is all there is before the end of a path of one key. -/
theorem objectsAlong_singleton (ms : Dict Json) (k : String) :
  (object ms).ObjectsAlong [k]
  := by
  intro p before ne
  cases p with
  | nil => exact ⟨ms, rfl⟩
  | cons j p =>
    obtain ⟨rfl, rest⟩ := List.cons_prefix_cons.mp before
    obtain rfl := List.prefix_nil.mp rest
    contradiction

/-- An object stands before all that stands along a path within one of its members. -/
theorem ObjectsAlong.cons {ms : Dict Json} (stands : ms.get? k = some x)
    (along : x.ObjectsAlong path) :
  (object ms).ObjectsAlong (k :: path)
  := by
  intro p before ne
  cases p with
  | nil => exact ⟨ms, rfl⟩
  | cons j p =>
    obtain ⟨rfl, rest⟩ := List.cons_prefix_cons.mp before
    rw [follow?_cons (v := object ms) stands]
    apply along p rest fun eq => ne (congrArg _ eq)

/-! ### What is seen of either layer -/

/-- What the upper layer has at the end of a path is seen there, unless it is an object or null. -/
theorem follow_merge_of_plain (plain : ∀ ns, x ≠ object ns) (counts : x ≠ null)
    (found : s.follow? path = some x) :
  (merge t s).follow? path = some x
  := by
  induction path generalizing t s with
  | nil =>
    obtain rfl := Option.some.inj found
    rw [merge_of_plain t plain, follow?]
  | cons k path ih =>
    obtain ⟨y, member, rest⟩ := Option.bind_eq_some_iff.mp found
    obtain ⟨ns, rfl, stands⟩ := eq_object_of_member member
    by_cases covered : ∀ ms, t ≠ object ms
    · rw [merge_of_not_object t _ covered]
      exact found
    · obtain ⟨ms, rfl⟩ := not_forall_not.mp covered
      -- null has nothing within it, so the member on the way to `x` is laid over the lower layer
      have given : (object ns).given? k = some y := by
        refine given_iff.mpr ⟨member, ?_⟩
        rintro rfl
        apply counts (eq_null_of_follow rest)
      rw [follow?, member?_merge ms ns k, given]
      apply ih rest

/-- What the lower layer has at the end of a path among objects in both layers, or that it has
nothing, is seen there if the upper one has nothing or null. -/
theorem follow_merge_of_missing (nonempty : path ≠ []) (lower : t.ObjectsAlong path)
    (upper : s.ObjectsAlong path)
    (missing : s.follow? path = none ∨ s.follow? path = some null) :
  (merge t s).follow? path = t.follow? path
  := by
  induction path generalizing t s with
  | nil => contradiction
  | cons k path ih =>
    obtain ⟨ms, rfl⟩ := lower.eq_object
    obtain ⟨ns, rfl⟩ := upper.eq_object
    rw [follow?, member?_merge ms ns k]
    cases path with
    | nil =>
      rw [follow?_singleton] at missing
      rw [given_none missing]
      rfl
    | cons j path =>
      obtain ⟨old, underlies, lower⟩ := lower.tail nofun
      obtain ⟨new, overlies, upper⟩ := upper.tail nofun
      have given : (object ns).given? k = some new := by
        obtain ⟨ls, rfl⟩ := upper.eq_object
        exact given_iff.mpr ⟨overlies, nofun⟩
      rw [follow?_cons (v := object ns) overlies] at missing
      rw [given, underlies, follow?_cons (v := object ms) underlies]
      apply ih nofun lower upper missing

/-! ### Laying a value over the result once more -/

/-- What holds of a value if it holds of its members holds of every value. -/
theorem induction_on_members {P : Json → Prop}
    (step : ∀ v, (∀ k x, v.member? k = some x → P x) → P v) (v : Json) :
  P v
  := by
  apply step
  intro k x member
  apply induction_on_members step x
termination_by sizeOf v
decreasing_by
  obtain ⟨⟨chain⟩, rfl, found⟩ := eq_object_of_member member
  have smaller := chain.sizeOf_lt_of_mem (Dict.mem_of_get? found)
  simp only [object.sizeOf_spec, Dict.mk.sizeOf_spec]
  omega

/-- An object is left as it is by another one if each member that this one gives leaves the member
of the same key as it is. -/
theorem merge_eq_self {ms ns : Dict Json}
    (same : ∀ k x, (object ns).given? k = some x
      → ∃ old, ms.get? k = some old ∧ merge old x = old) :
  merge (object ms) (object ns) = object ms
  := by
  obtain ⟨merged, eq, -⟩ := merge_objects ms ns
  rw [eq]
  congr 1
  apply Dict.ext
  intro k
  have shown := member?_merge ms ns k
  rw [eq, member?] at shown
  rw [shown]
  cases given : (object ns).given? k with
  | none => rfl
  | some x =>
    obtain ⟨old, found, unchanged⟩ := same k x given
    rw [found, Option.elim, Option.getD, unchanged]

/-- An object laid over a value shows each member that it gives laid over something, be it null. -/
theorem merge_shows_given (t : Json) (ns : Dict Json) :
  ∃ merged : Dict Json, merge t (object ns) = object merged
    ∧ ∀ k x, (object ns).given? k = some x
      → ∃ old : Json, merged.get? k = some (merge old x)
  := by
  by_cases covered : ∀ ms, t ≠ object ms
  · use ns, merge_of_not_object t _ covered
    intro k x given
    have overNull := merge_of_not_object null x nofun
    use null
    rw [overNull]
    apply (given_iff.mp given).1
  · obtain ⟨ms, rfl⟩ := not_forall_not.mp covered
    obtain ⟨merged, eq, -⟩ := merge_objects ms ns
    use merged, eq
    intro k x given
    have shown := member?_merge ms ns k
    rw [eq, given, member?, Option.elim] at shown
    exact ⟨_, shown⟩

/-- A value laid over another one twice is seen as if it were laid there once. -/
theorem merge_merge (t s : Json) :
  merge (merge t s) s = merge t s
  := by
  induction s using induction_on_members generalizing t with
  | step s ih =>
    by_cases plain : ∀ ns, s ≠ object ns
    · rw [merge_of_plain _ plain]
      symm
      apply merge_of_plain t plain
    · obtain ⟨ns, rfl⟩ := not_forall_not.mp plain
      obtain ⟨merged, eq, shows⟩ := merge_shows_given t ns
      rw [eq]
      apply merge_eq_self
      intro k x given
      obtain ⟨old, shown⟩ := shows k x given
      use merge old x, shown
      apply ih k x (given_iff.mp given).1

/-- What is seen of a value laid over another one. What the upper one has at the end of a path is
seen there, unless it is an object or null. What the lower one has at the end of a path among
objects in both is seen there, be it a value or nothing, if the upper one has nothing or null there.
Laying the upper one over the result once more changes nothing. -/
theorem merge_along_paths (t s : Json) :
  (∀ path x, path ≠ [] → s.follow? path = some x → (∀ ns, x ≠ object ns) → x ≠ null
      → (merge t s).follow? path = some x)
    ∧ (∀ path, path ≠ [] → t.ObjectsAlong path → s.ObjectsAlong path
      → s.follow? path = none ∨ s.follow? path = some null
      → (merge t s).follow? path = t.follow? path)
    ∧ merge (merge t s) s = merge t s
  := by
  refine ⟨?upper, ?lower, merge_merge t s⟩
  case upper =>
    intro path x _ found plain counts
    apply follow_merge_of_plain plain counts found
  case lower =>
    intro path nonempty lower upper missing
    apply follow_merge_of_missing nonempty lower upper missing

/-- A layer with a limit that is written and a stage that is a text. -/
def lowerLayer : Json :=
  ofMembers [("retry", ofMembers [("backoff", ofNat 5000), ("limits", array [ofNat 3])]),
    ("stage", string "trial")]

/-- A layer with a limit that is null and a stage that is an object. -/
def upperLayer : Json :=
  ofMembers [("retry", ofMembers [("backoff", ofNat 100), ("limits", null)]),
    ("stage", ofMembers [("name", null)])]

/-- The upper layer changes the backoff and leaves the limits. -/
theorem merge_along_paths_layers :
  (merge lowerLayer upperLayer).follow? ["retry", "backoff"] = some (ofNat 100)
    ∧ (merge lowerLayer upperLayer).follow? ["retry", "limits"] = some (array [ofNat 3])
    ∧ merge (merge lowerLayer upperLayer) upperLayer = merge lowerLayer upperLayer
  := by
  obtain ⟨given, left, again⟩ := merge_along_paths lowerLayer upperLayer
  refine ⟨?backoff, ?limits, again⟩
  case backoff => exact given _ _ nofun rfl nofun nofun
  case limits =>
    have below : lowerLayer.ObjectsAlong ["retry", "limits"] :=
      .cons (k := "retry") rfl (objectsAlong_singleton _ "limits")
    have above : upperLayer.ObjectsAlong ["retry", "limits"] :=
      .cons (k := "retry") rfl (objectsAlong_singleton _ "limits")
    exact left _ nofun below above (.inr rfl)

end Instrumentation.Json
