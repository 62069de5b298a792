/-!
# Dictionaries in key order

A dictionary lists its entries by ascending key. Keys are compared by code points, which is
also the order of their UTF-8 bytes, so two dictionaries with the same entries are the same.

The entries form a chain in which every key is known to lie beyond the one before it. So there
are no dictionaries out of order, and none with two entries under one key.

An insertion is seen at its own key and nowhere else, and so is a removal.
-/

universe u v

namespace Instrumentation

/-- A key after the one that bounds it, if there is one. -/
def Beyond : Option String → String → Prop
  | none, _ => True
  | some j, k => j < k

/-- A key is beyond those before it. -/
theorem Beyond.of_lt {j k : String} (lt : j < k) :
  Beyond (some j) k
  := lt

/-- What lies beyond a key lies beyond all that the key is beyond. -/
theorem Beyond.trans {low : Option String} {j k : String} (h : Beyond low j)
    (h' : Beyond (some j) k) :
  Beyond low k
  := by
  cases low with
  | none => trivial
  | some i => exact String.lt_trans h h'

/-- A key that is neither before another one nor the same is beyond it. -/
theorem Beyond.of_not_lt {j k : String} (ge : ¬j < k) (ne : j ≠ k) :
  Beyond (some k) j
  := by
  change k < j
  rw [← String.not_le]
  intro le
  exact ne (String.le_antisymm le (String.not_lt.mp ge))

/-- Entries by ascending key, all of them beyond a bound. -/
inductive Chain (α : Type u) : Option String → Type u where
  /-- No entries. -/
  | nil {low : Option String} : Chain α low
  /-- An entry, and those beyond it. -/
  | cons {low : Option String} (key : String) (beyond : Beyond low key) (value : α)
      (rest : Chain α (some key)) : Chain α low

namespace Chain

variable {α : Type u} {β : Type v} {low : Option String} {k : String}

/-- The entries as a list. -/
def entries {low : Option String} : Chain α low → List (String × α)
  | nil => []
  | cons k _ a rest => (k, a) :: rest.entries

/-- The entries with `k` bound to `a`, in place of an older value or before the first greater
key. -/
def insert {low : Option String} (k : String) (a : α) (beyond : Beyond low k) :
    Chain α low → Chain α low
  | nil => cons k beyond a nil
  | cons j before b rest =>
    if lt : j < k then cons j before b (rest.insert k a (.of_lt lt))
    else if eq : j = k then cons j before a rest
    else cons k beyond a (cons j (.of_not_lt lt eq) b rest)

/-- The entries under a bound that all are beyond that are beyond the other one. -/
def loosen {low low' : Option String} (h : ∀ k, Beyond low k → Beyond low' k) :
    Chain α low → Chain α low'
  | nil => nil
  | cons k beyond a rest => cons k (h k beyond) a rest

/-- The entries without that of `k`. -/
def erase {low : Option String} (k : String) : Chain α low → Chain α low
  | nil => nil
  | cons j beyond a rest =>
    if j = k then rest.loosen fun _ => beyond.trans else cons j beyond a (rest.erase k)

/-- The entries whose values are changed by `f`. -/
def map {low : Option String} (f : α → β) : Chain α low → Chain β low
  | nil => nil
  | cons k beyond a rest => cons k beyond (f a) (rest.map f)

@[simp]
theorem entries_nil :
  (nil : Chain α low).entries = []
  := rfl

@[simp]
theorem entries_cons (beyond : Beyond low k) (a : α) (rest : Chain α (some k)) :
  (cons k beyond a rest).entries = (k, a) :: rest.entries
  := rfl

@[simp]
theorem entries_loosen {low' : Option String} (h : ∀ k, Beyond low k → Beyond low' k)
    (c : Chain α low) :
  (c.loosen h).entries = c.entries
  := by
  cases c with
  | nil => rfl
  | cons k beyond a rest => rfl

/-- Every key is beyond the bound. -/
theorem beyond_of_mem {e : String × α} (c : Chain α low) (mem : e ∈ c.entries) :
  Beyond low e.1
  := by
  induction c with
  | nil => cases mem
  | cons k beyond a rest ih =>
    rcases List.mem_cons.mp mem with rfl | mem
    · exact beyond
    · exact beyond.trans (ih mem)

/-- Nothing is found under the key that bounds the others. -/
theorem lookup_self (c : Chain α (some k)) :
  c.entries.lookup k = none
  := by
  apply List.lookup_eq_none_iff.mpr
  intro e mem
  have lt : k < e.1 := c.beyond_of_mem mem
  have ne : k ≠ e.1 := String.ne_of_lt lt
  simpa using ne

/-- An insertion is seen at its own key and nowhere else. -/
theorem lookup_insert (c : Chain α low) (beyond : Beyond low k) (a : α) (j : String) :
  (c.insert k a beyond).entries.lookup j = if j = k then some a else c.entries.lookup j
  := by
  induction c with
  | nil =>
    by_cases h : j = k
    · simp [insert, h]
    · have other : (j == k) = false := by simpa using h
      simp [insert, List.lookup_cons, other, h]
  | cons i before b rest ih =>
    rw [insert]
    split
    next lt =>
      simp only [entries_cons, List.lookup_cons, ih]
      by_cases own : j = i
      · have ne : j ≠ k := own ▸ String.ne_of_lt lt
        simp [ne]
      · have other : (j == i) = false := by simpa using own
        simp [other]
    next =>
      split
      next eq =>
        subst eq
        simp only [entries_cons, List.lookup_cons]
        by_cases own : j = i
        · simp [own]
        · have other : (j == i) = false := by simpa using own
          simp [other, own]
      next =>
        rw [entries_cons, List.lookup_cons]
        by_cases own : j = k
        · simp [own]
        · have other : (j == k) = false := by simpa using own
          simp [other, own]

/-- A removal is seen at its own key and nowhere else. -/
theorem lookup_erase (c : Chain α low) (k j : String) :
  (c.erase k).entries.lookup j = if j = k then none else c.entries.lookup j
  := by
  induction c with
  | nil => simp [erase]
  | cons i beyond a rest ih =>
    rw [erase]
    split
    next eq =>
      subst eq
      rw [entries_loosen, entries_cons, List.lookup_cons]
      by_cases own : j = i
      · simp [own, rest.lookup_self]
      · have other : (j == i) = false := by simpa using own
        simp [other, own]
    next ne =>
      rw [entries_cons, entries_cons, List.lookup_cons, List.lookup_cons, ih]
      by_cases own : j = i
      · simp [own, ne]
      · have other : (j == i) = false := by simpa using own
        simp [other]

/-- A change of all values is one of every entry. -/
theorem entries_map (f : α → β) (c : Chain α low) :
  (c.map f).entries = c.entries.map fun e => (e.1, f e.2)
  := by
  induction c with
  | nil => rfl
  | cons k beyond a rest ih => rw [map, entries_cons, entries_cons, List.map_cons, ih]

/-- Chains with the same entries are the same. -/
theorem ext {c c' : Chain α low} (same : c.entries = c'.entries) :
  c = c'
  := by
  induction c with
  | nil =>
    cases c' with
    | nil => rfl
    | cons j beyond' b rest' => cases same
  | cons k beyond a rest ih =>
    cases c' with
    | nil => cases same
    | cons j beyond' b rest' =>
      obtain ⟨first, others⟩ := List.cons.inj same
      obtain ⟨rfl, rfl⟩ := Prod.mk.inj first
      rw [ih others]

end Chain

/-- A finite map from texts to values. -/
structure Dict (α : Type u) where
  /-- The keys with their values, in order. -/
  chain : Chain α none

namespace Dict

variable {α : Type u} {β : Type v}

/-- The keys with their values, by ascending key. -/
def entries (d : Dict α) : List (String × α) := d.chain.entries

/-- The dictionary without entries. -/
def empty : Dict α := ⟨.nil⟩

instance : EmptyCollection (Dict α) := ⟨empty⟩

instance : Inhabited (Dict α) := ⟨empty⟩

/-- Dictionaries with the same entries are the same. -/
theorem eq_of_entries {d d' : Dict α} (same : d.entries = d'.entries) :
  d = d'
  := by
  cases d
  cases d'
  congr 1
  exact Chain.ext same

instance [DecidableEq α] : DecidableEq (Dict α) := fun d d' =>
  decidable_of_iff (d.entries = d'.entries) ⟨eq_of_entries, congrArg entries⟩

/-- The value under a key. -/
def get? (d : Dict α) (k : String) : Option α := d.entries.lookup k

/-- The presence of a key. -/
def contains (d : Dict α) (k : String) : Bool := (d.get? k).isSome

/-- The keys in ascending order. -/
def keys (d : Dict α) : List String := d.entries.map Prod.fst

/-- The values in the order of their keys. -/
def values (d : Dict α) : List α := d.entries.map Prod.snd

/-- The number of entries. -/
def size (d : Dict α) : Nat := d.entries.length

/-- The absence of entries. -/
def isEmpty (d : Dict α) : Bool := d.entries.isEmpty

/-- The dictionary with `k` bound to `a`. -/
def insert (d : Dict α) (k : String) (a : α) : Dict α := ⟨d.chain.insert k a trivial⟩

/-- The dictionary without `k`. -/
def erase (d : Dict α) (k : String) : Dict α := ⟨d.chain.erase k⟩

/-- The dictionary whose values are changed by `f`. -/
def map (f : α → β) (d : Dict α) : Dict β := ⟨d.chain.map f⟩

/-- The dictionary with the value under `k`, if there is one, changed by `f`. -/
def modify (d : Dict α) (k : String) (f : α → α) : Dict α :=
  match d.get? k with
  | some a => d.insert k (f a)
  | none => d

/-- The dictionary of the listed entries, a later one replacing an earlier one of its key. -/
def ofList (es : List (String × α)) : Dict α :=
  es.foldl (fun d e => d.insert e.1 e.2) empty

@[simp] theorem get?_empty (k : String) : (empty : Dict α).get? k = none := rfl

/-- An insertion is seen at its own key and nowhere else. -/
theorem get?_insert (d : Dict α) (k j : String) (a : α) :
  (d.insert k a).get? j = if j = k then some a else d.get? j :=
  d.chain.lookup_insert trivial a j

/-- A removal is seen at its own key and nowhere else. -/
theorem get?_erase (d : Dict α) (k j : String) :
  (d.erase k).get? j = if j = k then none else d.get? j :=
  d.chain.lookup_erase k j

/-- A change under a key is seen at that key and nowhere else. -/
theorem get?_modify (d : Dict α) (k j : String) (f : α → α) :
  (d.modify k f).get? j = if j = k then (d.get? k).map f else d.get? j
  := by
  unfold modify
  cases h : d.get? k with
  | none =>
    by_cases hj : j = k
    · simp [hj, h]
    · simp [hj]
  | some a => simp [get?_insert]

end Dict

end Instrumentation
