import Instrumentation.Condition.Lexeme
import Mathlib.Tactic.Common

/-!
# The parts of quoted texts

Between its quotes, a quoted text is a sequence of parts: characters that stand for themselves, and
characters behind a backslash. It is read up to the first quote that is no part, and for what the
parts stand for.
-/

namespace Instrumentation.Condition

/-- A part of a quoted text. -/
inductive Part where
  /-- A character that stands for itself. -/
  | plain (c : Char)
  /-- A character behind a backslash. -/
  | escaped (c : Char)

namespace Part

/-- The characters of a part. -/
def text : Part → List Char
  | plain c => [c]
  | escaped c => ['\\', c]

/-- The character that a part stands for. -/
def value : Part → Char
  | plain c => c
  | escaped 'n' => '\n'
  | escaped 't' => '\t'
  | escaped 'r' => '\r'
  | escaped c => c

/-- A part may stand between quotes: by itself, a character is neither the quote nor a backslash. -/
def Fits (quote : Char) : Part → Prop
  | plain c => c ≠ quote ∧ c ≠ '\\'
  | escaped _ => True

/-- What an escaped character stands for. -/
theorem value_escaped (c : Char) :
  (escaped c).value = unescape c
  := by
  rw [value.eq_def]
  split
  next own => cases own
  next own =>
    cases own
    rfl
  next own =>
    cases own
    rfl
  next own =>
    cases own
    rfl
  next n t r own =>
    obtain rfl := escaped.inj own
    rw [unescape, if_neg n, if_neg t, if_neg r]

end Part

variable {quote : Char} {cs value text rest : List Char} {parts : List Part}

/-- What is read as a quoted text is a sequence of parts and the closing quote. -/
theorem exists_parts (h : scanQuoted quote cs = some (value, text, rest)) :
  ∃ parts : List Part, (∀ p ∈ parts, p.Fits quote) ∧ value = parts.map Part.value
    ∧ text = parts.flatMap Part.text ++ [quote] ∧ cs = parts.flatMap Part.text ++ quote :: rest
  := by
  induction cs using scanQuoted.induct quote generalizing value text rest with
  | case1 => cases h
  | case2 cs =>
    rw [scanQuoted.eq_def] at h
    simp only [if_true, Option.some.injEq, Prod.mk.injEq] at h
    obtain ⟨rfl, rfl, rfl⟩ := h
    exact ⟨[], nofun, rfl, rfl, rfl⟩
  | case3 alien =>
    -- A backslash at the very end escapes nothing, and no quote can follow.
    rw [scanQuoted.eq_def] at h
    simp only [if_neg alien, if_true, reduceCtorEq] at h
  | case4 e cs alien ih =>
    rw [scanQuoted.eq_def] at h
    simp only [if_neg alien, if_true, Option.map_eq_some_iff, Prod.exists, Prod.mk.injEq] at h
    obtain ⟨value, text, rest, inner, rfl, rfl, rfl⟩ := h
    obtain ⟨parts, fit, rfl, rfl, rfl⟩ := ih inner
    refine ⟨.escaped e :: parts, List.forall_mem_cons.mpr ⟨trivial, fit⟩, ?_, rfl, rfl⟩
    rw [List.map_cons, Part.value_escaped]
  | case5 c cs alien plain ih =>
    rw [scanQuoted.eq_def] at h
    simp only [if_neg alien, if_neg plain, Option.map_eq_some_iff, Prod.exists,
      Prod.mk.injEq] at h
    obtain ⟨value, text, rest, inner, rfl, rfl, rfl⟩ := h
    obtain ⟨parts, fit, rfl, rfl, rfl⟩ := ih inner
    exact ⟨.plain c :: parts, List.forall_mem_cons.mpr ⟨⟨alien, plain⟩, fit⟩, rfl, rfl, rfl⟩

/-- Parts and a closing quote are read as a quoted text, whatever is behind, unless the quote is a
backslash. -/
theorem scanQuoted_parts (mark : quote ≠ '\\') (fit : ∀ p ∈ parts, p.Fits quote)
    (rest : List Char) :
  scanQuoted quote (parts.flatMap Part.text ++ quote :: rest)
    = some (parts.map Part.value, parts.flatMap Part.text ++ [quote], rest)
  := by
  induction parts with
  | nil => simp [scanQuoted.eq_def]
  | cons p parts ih =>
    obtain ⟨own, others⟩ := List.forall_mem_cons.mp fit
    rw [List.flatMap_cons, List.append_assoc, List.map_cons]
    cases p with
    | plain c =>
      obtain ⟨alien, plain⟩ := own
      rw [Part.text, List.singleton_append, scanQuoted.eq_def]
      simp only [if_neg alien, if_neg plain, ih others]
      rfl
    | escaped e =>
      rw [Part.text, List.cons_append, List.singleton_append, scanQuoted.eq_def, Part.value_escaped]
      simp only [if_neg mark.symm, if_true, ih others]
      rfl

/-- A quoted text is taken with its closing quote. -/
theorem scanQuoted_text (h : scanQuoted quote cs = some (value, text, rest)) :
  text ++ rest = cs
  := by
  obtain ⟨parts, -, -, rfl, rfl⟩ := exists_parts h
  rw [List.append_assoc, List.singleton_append]

/-- A quote is no backslash. -/
theorem ne_backslash (mark : quote = '"' ∨ quote = '\x27') :
  quote ≠ '\\'
  := by
  rcases mark with rfl | rfl <;> decide

/-- A quoted text ends at its closing quote, whatever is behind it. -/
theorem scanQuoted_append (mark : quote = '"' ∨ quote = '\x27')
    (h : scanQuoted quote cs = some (value, text, rest)) (ds : List Char) :
  scanQuoted quote (cs ++ ds) = some (value, text, rest ++ ds)
  := by
  obtain ⟨parts, fit, rfl, rfl, rfl⟩ := exists_parts h
  rw [List.append_assoc, List.cons_append, scanQuoted_parts (ne_backslash mark) fit]

end Instrumentation.Condition
