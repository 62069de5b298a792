import Instrumentation.Dict
import Mathlib.Data.List.Perm.Basic
import Mathlib.Tactic.Common

/-!
# Keys that ascend

Along a chain the keys ascend strictly. So each key of a dictionary stands in one entry only, an
entry is found under its key, a list of keys chosen by their entries has no key twice, and a
dictionary is known by what is found in it. An insertion under a new key adds one value to the
others, and a removal takes one out.
-/

universe u v

namespace Instrumentation

namespace Chain

variable {α : Type u} {low : Option String} {k : String} {a : α}

/-- The keys ascend. -/
theorem ascending (c : Chain α low) :
  (c.entries.map Prod.fst).Pairwise (· < ·)
  := by
  induction c with
  | nil => exact List.Pairwise.nil
  | cons k beyond a rest ih =>
    apply List.pairwise_cons.mpr
    refine ⟨?_, ih⟩
    intro j mem
    obtain ⟨e, entry, rfl⟩ := List.mem_map.mp mem
    exact rest.beyond_of_mem entry

/-- What is found under a key is an entry. -/
theorem mem_of_lookup (c : Chain α low) (found : c.entries.lookup k = some a) :
  (k, a) ∈ c.entries
  := by
  induction c with
  | nil => cases found
  | cons j beyond b rest ih =>
    rw [entries_cons, List.lookup_cons] at found
    split at found
    next own =>
      obtain rfl := Option.some.inj found
      obtain rfl := eq_of_beq own
      apply List.mem_cons_self
    next => apply List.mem_cons_of_mem _ (ih found)

/-- An entry is found under its key. -/
theorem lookup_of_mem (c : Chain α low) (mem : (k, a) ∈ c.entries) :
  c.entries.lookup k = some a
  := by
  induction c with
  | nil => cases mem
  | cons j beyond b rest ih =>
    rw [entries_cons, List.lookup_cons]
    rcases List.mem_cons.mp mem with eq | mem
    · obtain ⟨rfl, rfl⟩ := Prod.mk.inj eq
      simp
    · have lt : j < k := rest.beyond_of_mem mem
      have other : (k == j) = false := beq_false_of_ne (String.ne_of_lt lt).symm
      rw [other]
      apply ih mem

/-- The values are smaller than the chain. -/
theorem sizeOf_lt_of_mem [SizeOf α] (c : Chain α low) (mem : (k, a) ∈ c.entries) :
  sizeOf a < sizeOf c
  := by
  induction c with
  | nil => cases mem
  | cons j beyond b rest ih =>
    rw [cons.sizeOf_spec]
    rcases List.mem_cons.mp mem with eq | mem
    · obtain ⟨rfl, rfl⟩ := Prod.mk.inj eq
      omega
    · have smaller := ih mem
      omega

/-- An insertion adds its own entry only. -/
theorem mem_insert (c : Chain α low) (beyond : Beyond low k) {e : String × α}
    (mem : e ∈ (c.insert k a beyond).entries) :
  e = (k, a) ∨ e ∈ c.entries
  := by
  induction c with
  | nil => exact .inl (List.mem_singleton.mp mem)
  | cons j before b rest ih =>
    rw [insert] at mem
    split at mem
    next lt =>
      rcases List.mem_cons.mp mem with rfl | mem
      · exact .inr List.mem_cons_self
      · exact (ih (.of_lt lt) mem).imp_right (List.mem_cons_of_mem _)
    next =>
      split at mem
      next eq =>
        subst eq
        exact (List.mem_cons.mp mem).imp_right (List.mem_cons_of_mem _)
      next => exact List.mem_cons.mp mem

/-- An insertion under a new key adds one entry. -/
theorem entries_insert_perm (c : Chain α low) (beyond : Beyond low k)
    (free : c.entries.lookup k = none) (a : α) :
  (c.insert k a beyond).entries.Perm ((k, a) :: c.entries)
  := by
  induction c with
  | nil => apply List.Perm.refl
  | cons j before b rest ih =>
    rw [entries_cons, List.lookup_cons] at free
    split at free
    next => cases free
    next other =>
      have ne : j ≠ k := fun eq => by simp [eq] at other
      rw [insert]
      split
      next lt =>
        apply ((ih (.of_lt lt) free).cons (j, b)).trans
        apply List.Perm.swap
      next => apply List.Perm.refl

/-- A removal takes out one entry. -/
theorem entries_erase_perm (c : Chain α low) (found : c.entries.lookup k = some a) :
  c.entries.Perm ((k, a) :: (c.erase k).entries)
  := by
  induction c with
  | nil => cases found
  | cons j beyond b rest ih =>
    rw [entries_cons, List.lookup_cons] at found
    split at found
    next own =>
      obtain rfl := Option.some.inj found
      obtain rfl := eq_of_beq own
      rw [erase, if_pos rfl, entries_loosen, entries_cons]
    next other =>
      have ne : j ≠ k := fun eq => by simp [eq] at other
      rw [erase, if_neg ne, entries_cons, entries_cons]
      apply ((ih found).cons (j, b)).trans
      apply List.Perm.swap

end Chain

namespace Dict

variable {α : Type u} {β : Type v} {d d' : Dict α} {k j : String} {a : α}

/-- The keys ascend. -/
theorem ascending (d : Dict α) :
  (d.entries.map Prod.fst).Pairwise (· < ·)
  := d.chain.ascending

/-- A change of all values is seen under every key. -/
theorem get?_map (f : α → β) (d : Dict α) (k : String) :
  (d.map f).get? k = (d.get? k).map f
  := by
  change (d.chain.map f).entries.lookup k = (d.chain.entries.lookup k).map f
  rw [Chain.entries_map]
  induction d.chain.entries with
  | nil => rfl
  | cons e rest ih =>
    obtain ⟨i, b⟩ := e
    simp only [List.map_cons, List.lookup_cons]
    split
    · rfl
    · exact ih

/-- What is found under a key is an entry. -/
theorem mem_of_get? (found : d.get? k = some a) :
  (k, a) ∈ d.entries
  := d.chain.mem_of_lookup found

/-- An entry is found under its key. -/
theorem get?_of_mem (mem : (k, a) ∈ d.entries) :
  d.get? k = some a
  := d.chain.lookup_of_mem mem

/-- An insertion under a new key adds one value. -/
theorem values_insert_perm (free : d.get? k = none) (a : α) :
  (d.insert k a).values.Perm (a :: d.values)
  := (d.chain.entries_insert_perm trivial free a).map Prod.snd

/-- A removal takes out one value. -/
theorem values_erase_perm (found : d.get? k = some a) :
  d.values.Perm (a :: (d.erase k).values)
  := (d.chain.entries_erase_perm found).map Prod.snd

/-- Dictionaries in which the same is found under every key are the same. -/
protected theorem ext (same : ∀ k, d.get? k = d'.get? k) :
  d = d'
  := by
  have pairwise (d : Dict α) : d.entries.Pairwise (·.1 < ·.1) := List.pairwise_map.mp d.ascending
  have nodup (d : Dict α) : d.entries.Nodup := by
    apply (pairwise d).imp
    rintro e _ lt rfl
    apply String.lt_irrefl _ lt
  have perm : d.entries.Perm d'.entries := by
    apply (List.perm_ext_iff_of_nodup (nodup d) (nodup d')).mpr
    rintro ⟨k, a⟩
    constructor
    · intro mem
      exact mem_of_get? ((same k).symm.trans (get?_of_mem mem))
    · intro mem
      exact mem_of_get? ((same k).trans (get?_of_mem mem))
  apply eq_of_entries
  apply List.Perm.eq_of_pairwise _ (pairwise d) (pairwise d') perm
  intro e e' _ _ lt lt'
  exact absurd (String.lt_trans lt lt') (String.lt_irrefl _)

/-- What is removed once need not be removed again. -/
theorem erase_erase (d : Dict α) (k : String) :
  (d.erase k).erase k = d.erase k
  := by
  apply Dict.ext
  intro j
  rw [get?_erase, get?_erase]
  split <;> rfl

/-- Nothing is lost when what is not there is removed. -/
theorem erase_of_free (free : d.get? k = none) :
  d.erase k = d
  := by
  apply Dict.ext
  intro j
  rw [get?_erase]
  split
  next own => rw [own, free]
  next => rfl

/-- No key is chosen twice. -/
theorem nodup_filter (d : Dict α) (choose : String × α → Bool) :
  ((d.entries.filter choose).map Prod.fst).Nodup
  := by
  have chosen : ((d.entries.filter choose).map Prod.fst).Pairwise (· < ·) :=
    d.ascending.sublist ((List.filter_sublist).map Prod.fst)
  apply chosen.imp
  rintro i _ lt rfl
  apply String.lt_irrefl i lt

end Dict

end Instrumentation
