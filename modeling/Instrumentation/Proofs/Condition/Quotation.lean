import Instrumentation.Proofs.Condition.Lexeme
import Instrumentation.Proofs.Condition.Lexing

/-!
# Quoted texts

Every text can be quoted: its characters are parts of a quoted text, with a backslash before each
quote and each backslash. Conversely, whatever is read as a quoted text is a quote, parts, and the
same quote, and it stands for what the parts stand for.
-/

namespace Instrumentation.Condition

/-! ### Quoting -/

namespace Part

variable {quote : Char}

/-- The part that a character is quoted by. -/
def quoting (quote c : Char) : Part := if c = quote ∨ c = '\\' then escaped c else plain c

/-- The part that a character is quoted by may stand between quotes. -/
theorem fits_quoting (c : Char) :
  (quoting quote c).Fits quote
  := by
  rw [quoting]
  split
  next => trivial
  next plain => exact not_or.mp plain

/-- The part that a character is quoted by stands for the character, since no quote is a letter. -/
theorem value_quoting (mark : quote = '"' ∨ quote = '\x27') (c : Char) :
  (quoting quote c).value = c
  := by
  rw [quoting]
  split
  next special =>
    rcases special with rfl | rfl
    · rcases mark with rfl | rfl <;> rfl
    · rfl
  next => rfl

end Part

/-- A text with a backslash before each quote and each backslash. -/
def escape (quote : Char) (cs : List Char) : List Char :=
  cs.flatMap fun c => if c = quote ∨ c = '\\' then ['\\', c] else [c]

variable {quote c : Char} {cs text rest : List Char}

/-- The characters of an escaped text are those of the parts that its characters are quoted by. -/
theorem escape_eq (quote : Char) (cs : List Char) :
  escape quote cs = (cs.map (Part.quoting quote)).flatMap Part.text
  := by
  rw [escape, List.flatMap_map]
  congr
  funext c
  rw [Part.quoting]
  split <;> rfl

/-! ### From quote to quote -/

/-- Every text is read back from its characters, escaped and between quotes, whatever is behind. -/
theorem scan_escape (mark : quote = '"' ∨ quote = '\x27') (cs tail : List Char) :
  scan quote (escape quote cs ++ quote :: tail)
    = .ok ⟨.str (String.ofList cs), quote :: (escape quote cs ++ [quote]), tail⟩
  := by
  have fit : ∀ p ∈ cs.map (Part.quoting quote), p.Fits quote :=
    List.forall_mem_map.mpr fun c _ => Part.fits_quoting c
  have stands : (cs.map (Part.quoting quote)).map Part.value = cs := by
    rw [List.map_map, Function.comp_def, funext (Part.value_quoting mark), List.map_id']
  have read := scanQuoted_parts (ne_backslash mark) fit tail
  rw [stands, ← escape_eq] at read
  rw [scan_quote mark, scanString, read]

/-- A word is no quoted text. -/
theorem wordToken_ne_str (word : List Char) (s : String) :
  wordToken word ≠ .str s
  := by
  rw [wordToken]
  split <;> simp

/-- The number at the front of a text is no quoted text. -/
theorem scanNumber_ne_str (cs : List Char) (s : String) :
  (scanNumber cs).token ≠ .str s
  := by
  obtain ⟨whole, fraction, same⟩ := scanNumber_token cs
  rw [same, numberToken]
  split <;> simp

/-- What is taken as a quoted text is a quote, parts, and the same quote, and it stands for what the
parts stand for. -/
theorem parts_of_scan {v : String} (h : scan c cs = .ok ⟨.str v, text, rest⟩) :
  (c = '"' ∨ c = '\x27')
    ∧ ∃ parts : List Part, (∀ p ∈ parts, p.Fits c) ∧ text = c :: (parts.flatMap Part.text ++ [c])
      ∧ v = String.ofList (parts.map Part.value)
  := by
  cases Front.total c cs with
  | mark t _ other scanned =>
    have same := Except.ok.inj ((scanned cs id).symm.trans h)
    exact absurd (congrArg Piece.token same) (other v)
  | pair t d rest behind _ other scanned =>
    subst behind
    have same := Except.ok.inj ((scanned rest).symm.trans h)
    exact absurd (congrArg Piece.token same) (other v)
  | quoted mark =>
    rw [scan_quote mark, scanString] at h
    split at h
    next value inner rest' read =>
      obtain ⟨parts, fit, rfl, rfl, -⟩ := exists_parts read
      obtain ⟨same, rfl, -⟩ := Piece.mk.inj (Except.ok.inj h)
      exact ⟨mark, parts, fit, rfl, (Token.str.inj same).symm⟩
    next => cases h
  | number digit =>
    have same := Except.ok.inj ((scan_digit digit cs).symm.trans h)
    exact absurd (congrArg Piece.token same) (scanNumber_ne_str _ v)
  | word first letter =>
    have same := Except.ok.inj ((scan_word first letter cs).symm.trans h)
    exact absurd (congrArg Piece.token same) (wordToken_ne_str _ v)
  | refused scanned => cases scanned.symm.trans h

/-- Every text can be quoted by either quote: from the quote, the text with a backslash before each
such quote and each backslash, and the quote again, the text is read back, and nothing of what is
behind is taken. Conversely, what is taken as a quoted text is a quote, characters that are neither
that quote nor a backslash or stand behind a backslash, and the same quote. It stands for those
characters, with a newline, a tabulator and a carriage return for an escaped `n`, `t` and `r`. The
quoted texts among the tokens of a whole text are of this form. -/
theorem quoted_texts :
  (∀ (s : String) (quote : Char) (tail : List Char), quote = '"' ∨ quote = '\x27' →
    scan quote (escape quote s.toList ++ quote :: tail)
      = .ok ⟨.str s, quote :: (escape quote s.toList ++ [quote]), tail⟩)
    ∧ (∀ c cs text rest v, scan c cs = .ok ⟨.str v, text, rest⟩ →
      c :: cs = text ++ rest ∧ (c = '"' ∨ c = '\x27')
        ∧ ∃ parts : List Part, (∀ p ∈ parts, p.Fits c)
          ∧ text = c :: (parts.flatMap Part.text ++ [c])
          ∧ v = String.ofList (parts.map Part.value))
    ∧ ∀ source ts v offset, tokenize source = .ok ts → ⟨.str v, offset⟩ ∈ ts →
      ∃ front quote rest, (quote = '"' ∨ quote = '\x27') ∧ offset = byteLength front
        ∧ ∃ parts : List Part, (∀ p ∈ parts, p.Fits quote)
          ∧ source.toList = front ++ (quote :: (parts.flatMap Part.text ++ [quote]) ++ rest)
          ∧ v = String.ofList (parts.map Part.value)
  := by
  refine ⟨?_, ?_, ?_⟩
  · intro s quote tail mark
    have read := scan_escape mark s.toList tail
    rwa [String.ofList_toList] at read
  · intro c cs text rest v scanned
    exact ⟨(scan_text scanned).symm, parts_of_scan scanned⟩
  · intro source ts v offset read mem
    obtain ⟨body, taken, rfl⟩ := tokenize_eq_ok_iff.mp read
    rcases List.mem_append.mp mem with mem | last
    · obtain ⟨front, c, text, rest, split, place, scanned⟩ := taken.exists_of_mem mem
      obtain ⟨mark, parts, fit, same, rfl⟩ := parts_of_scan scanned
      rw [Nat.zero_add] at place
      exact ⟨front, c, rest, mark, place, parts, fit, same ▸ split, rfl⟩
    · cases List.mem_singleton.mp last

end Instrumentation.Condition
