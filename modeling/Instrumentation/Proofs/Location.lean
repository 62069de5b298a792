import Instrumentation.Location
import Mathlib.Data.List.TakeWhile
import Mathlib.Tactic.Common

/-!
# Units and what they are nested in

A unit is within another one if its name goes on after the name of the other one with a dollar sign,
or not at all. The signature of a method goes on after the name of the unit that owns the method
with a dot, and a method without an owner with its parenthesis, so that no signature is within the
unit to be patched.

Units are ordered by what they are within, and so are locations by the lookups that they answer.
-/

namespace Instrumentation.Location

variable {l query : Location} {start cs rest name : List Char}

/-- What is left after a start is what follows it. -/
theorem dropStart?_eq_some_iff :
  dropStart? start cs = some rest ↔ cs = start ++ rest
  := by
  induction start generalizing cs with
  | nil => exact Option.some_inj
  | cons a start ih =>
    cases cs with
    | nil => simp [dropStart?]
    | cons c cs =>
      rw [dropStart?]
      split
      next same => rw [ih, same, List.cons_append, List.cons.injEq, eq_self, true_and]
      next other => simp [Ne.symm other]

/-- A unit is within another one if a dollar sign or nothing follows the name of the other one. -/
theorem isWithin_iff {unit outer : String} :
  isWithin unit outer = true
    ↔ ∃ rest, unit.toList = outer.toList ++ rest ∧ ∀ c ∈ rest.head?, c = '$'
  := by
  simp only [← dropStart?_eq_some_iff]
  rw [isWithin]
  split
  next whole => simp [whole]
  next c rest nested => simp [nested]
  next apart => simp [apart]

/-! ### Units within units -/

variable {unit outer outermost : String} {l' : Location}

/-- A unit is within itself. -/
theorem isWithin_self (unit : String) :
  isWithin unit unit = true
  := isWithin_iff.mpr ⟨[], (List.append_nil _).symm, nofun⟩

/-- What a unit is within, it is also within where that is within another one. -/
theorem isWithin_trans (h : isWithin unit outer = true) (h' : isWithin outer outermost = true) :
  isWithin unit outermost = true
  := by
  obtain ⟨inner, goesOn, dollar⟩ := isWithin_iff.mp h
  obtain ⟨middle, goesOn', dollar'⟩ := isWithin_iff.mp h'
  have whole : unit.toList = outermost.toList ++ (middle ++ inner) := by
    rw [goesOn, goesOn', List.append_assoc]
  -- what follows the outermost name starts with what follows it first, if anything does
  have first : ∀ c ∈ (middle ++ inner).head?, c = '$' := by
    cases middle with
    | nil => exact dollar
    | cons c middle => exact dollar'
  exact isWithin_iff.mpr ⟨middle ++ inner, whole, first⟩

/-- Units that are within each other are the same. -/
theorem isWithin_antisymm (h : isWithin unit outer = true) (h' : isWithin outer unit = true) :
  unit = outer
  := by
  obtain ⟨inner, goesOn, -⟩ := isWithin_iff.mp h
  obtain ⟨inner', goesOn', -⟩ := isWithin_iff.mp h'
  have longer : outer.toList <+: unit.toList := ⟨inner, goesOn.symm⟩
  have longer' : unit.toList <+: outer.toList := ⟨inner', goesOn'.symm⟩
  have same : unit.toList = outer.toList :=
    longer'.eq_of_length (Nat.le_antisymm longer'.length_le longer.length_le)
  exact String.toList_inj.mp same

/-- A location answers a lookup on its line for what its unit is within. -/
theorem answers_iff :
  l.answers query = true ↔ l.line = query.line ∧ isWithin l.unit query.unit = true
  := by rw [answers, Bool.and_eq_true, decide_eq_true_iff]

/-- A location answers a lookup for itself. -/
theorem answers_self (l : Location) :
  l.answers l = true
  := answers_iff.mpr ⟨rfl, isWithin_self l.unit⟩

/-- A location answers the lookups that are answered by one whose lookup it answers. -/
theorem answers_trans (h : l.answers l' = true) (h' : l'.answers query = true) :
  l.answers query = true
  := by
  obtain ⟨line, within⟩ := answers_iff.mp h
  obtain ⟨line', within'⟩ := answers_iff.mp h'
  exact answers_iff.mpr ⟨line.trans line', isWithin_trans within within'⟩

/-- Locations that answer lookups for each other are the same. -/
theorem answers_antisymm (h : l.answers l' = true) (h' : l'.answers l = true) :
  l = l'
  := by
  obtain ⟨unit, line⟩ := l
  obtain ⟨unit', line'⟩ := l'
  obtain ⟨sameLine, within⟩ := answers_iff.mp h
  obtain ⟨-, within'⟩ := answers_iff.mp h'
  congr 1
  exact isWithin_antisymm within within'

/-! ### The unit that is patched -/

/-- What is left of a text from a character on starts with that character. -/
theorem eq_of_dropWhile {mark c : Char} (left : cs.dropWhile (· ≠ mark) = c :: rest) :
  c = mark
  := by
  have stops := List.head?_dropWhile_not (· ≠ mark) cs
  rw [left] at stops
  simpa using stops

/-- A name has no owner, or goes on with a dot after its owner. -/
theorem owner_cases (name : List Char) :
  owner name = name ∨ ∃ last, name = owner name ++ '.' :: last
  := by
  rw [owner]
  split
  next => exact .inl rfl
  next c rest found =>
    right
    have parts := List.takeWhile_append_dropWhile (p := (· ≠ '.')) (l := name.reverse)
    rw [found, eq_of_dropWhile found] at parts
    use (name.reverse.takeWhile (· ≠ '.')).reverse
    simpa using (congrArg List.reverse parts).symm

/-- The location is written as the signature of a method. -/
def IsSignature (l : Location) : Prop := '(' ∈ l.unit.toList

instance (l : Location) : Decidable l.IsSignature := inferInstanceAs (Decidable (_ ∈ _))

/-- The line of the unit that is patched. -/
def patchPoint (l : Location) : Location := { l with unit := l.unitName }

/-- What is no signature is patched as it is written. -/
theorem patchPoint_of_plain (plain : ¬l.IsSignature) :
  l.patchPoint = l
  := by
  have none : l.unit.toList.contains '(' = false := by
    rw [← Bool.not_eq_true, List.contains_iff_mem]
    exact plain
  rw [patchPoint, unitName, none]
  rfl

/-- A signature goes on after the unit that is patched with a dot or a parenthesis. -/
theorem IsSignature.goesOn (h : l.IsSignature) :
  ∃ c rest, l.unit.toList = l.unitName.toList ++ c :: rest ∧ (c = '.' ∨ c = '(')
  := by
  have contains : l.unit.toList.contains '(' = true := List.contains_iff_mem.mpr h
  rw [unitName, if_pos contains, String.toList_ofList]
  have parts := List.takeWhile_append_dropWhile (p := (· ≠ '(')) (l := l.unit.toList)
  cases found : l.unit.toList.dropWhile (· ≠ '(') with
  | nil =>
    rw [found, List.append_nil] at parts
    rw [IsSignature, ← parts] at h
    simpa using List.mem_takeWhile_imp h
  | cons c rest =>
    rw [found, eq_of_dropWhile found] at parts
    rcases owner_cases (l.unit.toList.takeWhile (· ≠ '(')) with whole | ⟨last, owned⟩
    · rw [whole]
      exact ⟨_, rest, parts.symm, .inr rfl⟩
    · refine ⟨_, last ++ '(' :: rest, ?_, .inl rfl⟩
      rw [← List.cons_append, ← List.append_assoc, ← owned]
      exact parts.symm

/-- An instrument answers a lookup for the unit that is patched unless its location is written as a
signature. -/
theorem answers_patchPoint_iff :
  l.answers l.patchPoint = true ↔ ¬l.IsSignature
  := by
  constructor
  · intro answers signature
    obtain ⟨c, rest, goesOn, mark⟩ := signature.goesOn
    obtain ⟨-, within⟩ := answers_iff.mp answers
    obtain ⟨rest', same, dollar⟩ := isWithin_iff.mp within
    obtain rfl := List.append_cancel_left (goesOn.symm.trans same)
    obtain rfl := dollar c rfl
    revert mark
    decide
  · intro plain
    rw [patchPoint_of_plain plain]
    apply answers_self

end Instrumentation.Location
