import Instrumentation.Json.Decode
import Instrumentation.Proofs.Dict

/-!
# What readers give back

A record is written as a dictionary of its members, which puts them in key order. As long as no two
members have one key, each of them is found under its key, and nothing else is found. So a reader
gives back what was written, if each member passes its check and the record is built from the
values that its members are read as.
-/

namespace Instrumentation

/-- Two steps succeed when the first does, and the second does with its result. -/
theorem bind_eq_ok {ε α β : Type} {x : Except ε α} {f : α → Except ε β} {b : β} :
  x >>= f = .ok b ↔ ∃ a, x = .ok a ∧ f a = .ok b
  := by
  cases x with
  | error err => simp [bind, Except.bind]
  | ok a => simp [bind, Except.bind]

/-- What follows a step that succeeds. -/
theorem bind_of_ok {ε α β : Type} {x : Except ε α} {f : α → Except ε β} {a : α} (ok : x = .ok a) :
  x >>= f = f a
  := by
  rw [ok]
  rfl

/-! ### Dictionaries of listed entries -/

namespace Dict

variable {α : Type} {d : Dict α} {k : String} {es : List (String × α)}

/-- A dictionary without entries. -/
theorem eq_empty (d : Dict α) (isEmpty : d.isEmpty = true) :
  d = empty
  := eq_of_entries (List.isEmpty_iff.mp isEmpty)

/-- Entries inserted one after another, on top of others. -/
theorem mem_foldl_insert {e : String × α}
    (mem : e ∈ (es.foldl (fun d e => d.insert e.1 e.2) d).entries) :
  e ∈ es ∨ e ∈ d.entries
  := by
  induction es generalizing d with
  | nil => exact .inr mem
  | cons e' rest ih =>
    rcases ih mem with mem | mem
    · exact .inl (List.mem_cons_of_mem _ mem)
    · rcases Chain.mem_insert _ _ mem with rfl | mem
      · exact .inl List.mem_cons_self
      · exact .inr mem

/-- The dictionary of listed entries has no others. -/
theorem mem_ofList {e : String × α} (mem : e ∈ (ofList es).entries) :
  e ∈ es
  := (mem_foldl_insert mem).resolve_right List.not_mem_nil

/-- Nothing is listed under another key than those of the entries. -/
theorem lookup_of_new (new : k ∉ es.map Prod.fst) :
  es.lookup k = none
  := by
  apply List.lookup_eq_none_iff.mpr
  rintro ⟨i, b⟩ mem
  have other : k ≠ i := by
    rintro rfl
    exact new (List.mem_map.mpr ⟨_, mem, rfl⟩)
  simpa using other

/-- Entries with distinct keys inserted one after another are found before others. -/
theorem get?_foldl_insert (distinct : (es.map Prod.fst).Nodup) :
  (es.foldl (fun d e => d.insert e.1 e.2) d).get? k = (es.lookup k).or (d.get? k)
  := by
  induction es generalizing d with
  | nil => rfl
  | cons e rest ih =>
    obtain ⟨j, a⟩ := e
    obtain ⟨new, distinct⟩ := List.nodup_cons.mp distinct
    rw [List.foldl_cons, ih distinct, get?_insert, List.lookup_cons]
    by_cases own : k = j
    · subst own
      simp [lookup_of_new new]
    · have other : (k == j) = false := beq_false_of_ne own
      rw [if_neg own, other]

/-- Each of the listed entries is found under its key, if no key is listed twice. -/
theorem get?_ofList (distinct : (es.map Prod.fst).Nodup) (k : String) :
  (ofList es).get? k = es.lookup k
  := by
  rw [ofList, get?_foldl_insert distinct, get?_empty, Option.or_none]

end Dict

/-! ### Fields -/

namespace Fields

variable {α : Type} {fs : Fields} {field : String} {read : Decoder α}

/-- All given fields pass their checks. -/
theorem check_eq_ok_iff {problem : String → Decoder Unit} :
  fs.check problem = .ok () ↔ ∀ k v, (k, v) ∈ fs.given → problem k v = .ok ()
  := by
  rw [check, List.forM_eq_forM]
  generalize fs.given = given
  induction given with
  | nil => simp [pure, Except.pure]
  | cons e rest ih =>
    obtain ⟨j, u⟩ := e
    rw [List.forM_cons, bind_eq_ok]
    simp only [List.mem_cons, Prod.mk.injEq]
    constructor
    · rintro ⟨_, first, others⟩ k v (⟨rfl, rfl⟩ | mem)
      · exact first
      · exact ih.mp others k v mem
    · intro all
      exact ⟨(), all j u (.inl ⟨rfl, rfl⟩), ih.mpr fun k v mem => all k v (.inr mem)⟩

section Listed

variable {ms : List (String × Json)} {v : Json} {a : α}

/-- The fields of a written record are the listed members. -/
theorem get?_ofList (distinct : (ms.map Prod.fst).Nodup) (field : String) :
  (ofMembers (.ofList ms)).get? field = ms.lookup field
  := Dict.get?_ofList distinct field

/-- What is read of a field that is listed. -/
theorem required_ofList_eq (distinct : (ms.map Prod.fst).Nodup)
    (listed : ms.lookup field = some v) :
  (ofMembers (.ofList ms)).required field read = read v
  := by rw [required, get?_ofList distinct, listed]

/-- A field that is listed is read. -/
theorem required_ofList (distinct : (ms.map Prod.fst).Nodup) (listed : ms.lookup field = some v)
    (ok : read v = .ok a) :
  (ofMembers (.ofList ms)).required field read = .ok a
  := (required_ofList_eq distinct listed).trans ok

/-- A field that is listed is read, also if it need not be given. -/
theorem orElse_ofList {default : α} (distinct : (ms.map Prod.fst).Nodup)
    (listed : ms.lookup field = some v) (ok : read v = .ok a) :
  (ofMembers (.ofList ms)).orElse field read default = .ok a
  := by
  rw [orElse, get?_ofList distinct, listed]
  exact ok

/-- A field that is not listed has its default. -/
theorem orElse_ofList_none {default : α} (distinct : (ms.map Prod.fst).Nodup)
    (absent : ms.lookup field = none) :
  (ofMembers (.ofList ms)).orElse field read default = .ok default
  := by rw [orElse, get?_ofList distinct, absent]

end Listed

end Fields

/-! ### Readers -/

namespace Decoder

variable {α : Type} {read : Decoder α} {v : Json} {a : α}

/-- A value that is read passes the check of its reader. -/
theorem passes_of_read (ok : read v = .ok a) :
  passes read v = .ok ()
  := by
  rw [passes, ok]
  rfl

/-- A text. -/
theorem text_string (s : String) :
  text (.string s) = .ok s
  := rfl

/-- A truth value. -/
theorem boolean_bool (b : Bool) :
  boolean (.bool b) = .ok b
  := rfl

/-- Members of an object. -/
theorem members_object (ms : Dict Json) :
  members (.object ms) = .ok ms
  := rfl

/-- A text is not null. -/
theorem string_ne_null (s : String) :
  Json.string s ≠ .null
  := nofun

/-- An object is not null. -/
theorem ofMembers_ne_null (ms : List (String × Json)) :
  Json.ofMembers ms ≠ .null
  := nofun

/-- A word of 32 bits is not null. -/
theorem ofUInt32_ne_null (n : UInt32) :
  Json.ofUInt32 n ≠ .null
  := by
  rw [Json.ofUInt32]
  nofun

/-- A word of 32 bits. -/
theorem uint32_ofUInt32 (n : UInt32) :
  uint32 (Json.ofUInt32 n) = .ok n
  := by
  have inside : (0 : Int) ≤ (Integer.ofUInt32 n).val
      ∧ (Integer.ofUInt32 n).val < (UInt32.size : Nat) := by
    have := n.toNat_lt
    constructor
    · exact Int.natCast_nonneg _
    · exact Int.ofNat_lt.mpr this
  rw [uint32, Json.ofUInt32, word, if_pos inside]
  change Except.ok (UInt32.ofNat n.toNat) = _
  rw [UInt32.ofNat_toNat]

/-- What may be null is read like anything else if it is not. -/
theorem optional_eq_ok_iff (notNull : v ≠ .null) :
  optional read v = .ok (some a) ↔ read v = .ok a
  := by
  have same : optional read v = (read v).map some := by
    cases v with
    | null => contradiction
    | _ => rfl
  rw [same]
  cases read v with
  | error err => simp [Except.map]
  | ok b => simp [Except.map]

/-- A list of values is given back just if each of them is. -/
theorem list_eq_ok_iff {write : α → Json} {as : List α} :
  list read (.array (as.map write)) = .ok as ↔ ∀ a ∈ as, read (write a) = .ok a
  := by
  rw [list]
  induction as with
  | nil => simp [pure, Except.pure]
  | cons a as ih =>
    rw [List.map_cons, List.mapM_cons, bind_eq_ok, List.forall_mem_cons]
    constructor
    · rintro ⟨b, first, goesOn⟩
      obtain ⟨bs, rest, same⟩ := bind_eq_ok.mp goesOn
      obtain ⟨rfl, rfl⟩ := List.cons.inj (Except.ok.inj same)
      exact ⟨first, ih.mp rest⟩
    · rintro ⟨first, rest⟩
      exact ⟨a, first, bind_eq_ok.mpr ⟨as, ih.mpr rest, rfl⟩⟩

/-- A record that is written as an object is given back if its members pass their checks and it is
built from them. -/
theorem record_ofMembers {passage : Passage} {shape : Shape} {problem : Fields → String → Decoder Unit}
    {build : Fields → Except DecodeError α} {ms : List (String × Json)}
    (passes : ∀ k v, (k, v) ∈ ms → problem (.ofMembers (.ofList ms)) k v = .ok ())
    (builds : build (.ofMembers (.ofList ms)) = .ok a) :
  record passage shape problem build (Json.ofMembers ms) = .ok a
  := by
  rw [Json.ofMembers, record]
  apply bind_eq_ok.mpr
  use ()
  constructor
  · apply Fields.check_eq_ok_iff.mpr
    intro k v mem
    exact passes k v (Dict.mem_ofList mem)
  · exact builds

end Decoder

/-- A field that is left out for nothing is read as nothing then. -/
theorem Fields.orElse_optional {α : Type} {read : Decoder α} (write : α → Json) {o : Option α}
    {ms : List (String × Json)} {field : String} (distinct : (ms.map Prod.fst).Nodup)
    (listed : ms.lookup field = o.map write) (notNull : ∀ a, write a ≠ .null)
    (ok : ∀ a, o = some a → read (write a) = .ok a) :
  (ofMembers (.ofList ms)).orElse field (Decoder.optional read) none = .ok o
  := by
  cases o with
  | none => exact orElse_ofList_none distinct listed
  | some a =>
    apply orElse_ofList distinct listed
    exact (Decoder.optional_eq_ok_iff (notNull a)).mpr (ok a rfl)

end Instrumentation
