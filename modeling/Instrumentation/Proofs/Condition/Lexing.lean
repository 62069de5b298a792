import Instrumentation.Proofs.Condition.Parts
import Instrumentation.Proofs.Json.Decode
import Instrumentation.Text.Blank
import Mathlib.Tactic.Common

/-!
# Tokens one after another

What is at the front of a text is a mark of one character or of two, a quoted text, a number or a
word, or it is refused. Which of them it is shows at its first character, but for the marks that a
second one makes longer.

The tokens of a text are taken from its front one after another, with the blanks between them. What
is taken is told apart from the text behind it, so that two runs of tokens, each taken in front of
what follows it, are taken together. A text has tokens if all of it is taken so; otherwise some of
it is, and the character behind that is refused.
-/

namespace Instrumentation.Condition

/-! ### Lengths -/

/-- The length of a text in bytes. -/
theorem byteLength_append (cs ds : List Char) :
  byteLength (cs ++ ds) = byteLength cs + byteLength ds
  := by
  induction cs with
  | nil => exact (Nat.zero_add _).symm
  | cons c cs ih => rw [List.cons_append, byteLength, byteLength, ih, Nat.add_assoc]

/-- A text is cut at a number of bytes in one way only. -/
theorem append_inj_of_byteLength {before before' behind behind' : List Char}
    (same : before ++ behind = before' ++ behind')
    (length : byteLength before = byteLength before') :
  before = before' ∧ behind = behind'
  := by
  induction before generalizing before' with
  | nil =>
    cases before' with
    | nil => exact ⟨rfl, same⟩
    | cons c cs =>
      have := c.utf8Size_pos
      rw [byteLength, byteLength] at length
      omega
  | cons c cs ih =>
    cases before' with
    | nil =>
      have := c.utf8Size_pos
      rw [byteLength, byteLength] at length
      omega
    | cons d ds =>
      obtain ⟨rfl, same'⟩ := List.cons.inj same
      obtain ⟨rfl, rfl⟩ := ih same' (Nat.add_left_cancel length)
      exact ⟨rfl, rfl⟩

/-- The bytes of a text are those of its characters. -/
theorem byteLength_toList (s : String) :
  byteLength s.toList = s.utf8ByteSize
  := by
  have size (cs : List Char) : (String.ofList cs).utf8ByteSize = byteLength cs := by
    induction cs with
    | nil => rfl
    | cons c cs ih =>
      rw [String.ofList_cons, String.utf8ByteSize_append, String.utf8ByteSize_singleton, ih]
      rfl
  rw [← size, String.ofList_toList]

/-! ### What is at the front -/

variable {b c : Char} {cs ds : List Char} {piece : Piece}

/-- What is at the front of a text, by its first character and what is behind it. -/
inductive Front (c : Char) (cs : List Char) : Prop
  /-- A mark of one character, unless an equality sign follows that does not follow here. -/
  | mark (t : Token) (visible : Text.isBlank c = false) (other : ∀ s, t ≠ .str s)
      (scanned : ∀ ds : List Char, (ds.head? = some '=' → cs.head? = some '=') →
        scan c ds = .ok ⟨t, [c], ds⟩)
  /-- A mark of two characters. -/
  | pair (t : Token) (d : Char) (rest : List Char) (behind : cs = d :: rest)
      (visible : Text.isBlank c = false) (other : ∀ s, t ≠ .str s)
      (scanned : ∀ ds, scan c (d :: ds) = .ok ⟨t, [c, d], ds⟩)
  /-- A quoted text. -/
  | quoted (quote : c = '"' ∨ c = '\x27')
  /-- A number. -/
  | number (digit : c.isDigit = true)
  /-- A word. -/
  | word (first : isWordChar c = true) (letter : ¬c.isDigit = true)
  /-- Nothing that is taken. -/
  | refused (scanned : scan c cs = .error (.unexpected c))

/-- A mark that an equality sign would make longer is taken alone if none follows. -/
theorem scan_alone {t : Token}
    (alone : ∀ ds : List Char, (∀ rest, ds = '=' :: rest → False) → scan c ds = single t c ds)
    (plain : ∀ rest, cs = '=' :: rest → False) (same : ds.head? = some '=' → cs.head? = some '=') :
  scan c ds = .ok ⟨t, [c], ds⟩
  := by
  apply alone
  rintro rest rfl
  obtain ⟨rest', rfl⟩ := List.head?_eq_some_iff.mp (same rfl)
  exact plain rest' rfl

/-- Something is at the front of every text, or it is refused. -/
theorem Front.total (c : Char) (cs : List Char) :
  Front c cs
  := by
  fun_cases scan c cs
  case case1 => exact .mark .lparen rfl nofun fun _ _ => rfl
  case case2 => exact .mark .rparen rfl nofun fun _ _ => rfl
  case case3 => exact .mark .lbracket rfl nofun fun _ _ => rfl
  case case4 => exact .mark .rbracket rfl nofun fun _ _ => rfl
  case case5 => exact .mark .dot rfl nofun fun _ _ => rfl
  case case6 => exact .mark .plus rfl nofun fun _ _ => rfl
  case case7 => exact .mark .minus rfl nofun fun _ _ => rfl
  case case8 => exact .mark .star rfl nofun fun _ _ => rfl
  case case9 => exact .mark .slash rfl nofun fun _ _ => rfl
  case case10 => exact .mark .percent rfl nofun fun _ _ => rfl
  case case11 rest => exact .pair .eq '=' rest rfl rfl nofun fun _ => rfl
  case case12 rest => exact .pair .ne '=' rest rfl rfl nofun fun _ => rfl
  case case13 plain =>
    exact .mark .not rfl nofun fun _ => scan_alone (fun _ other => by rw [scan]; exact other) plain
  case case14 rest => exact .pair .le '=' rest rfl rfl nofun fun _ => rfl
  case case15 plain =>
    exact .mark .lt rfl nofun fun _ => scan_alone (fun _ other => by rw [scan]; exact other) plain
  case case16 rest => exact .pair .ge '=' rest rfl rfl nofun fun _ => rfl
  case case17 plain =>
    exact .mark .gt rfl nofun fun _ => scan_alone (fun _ other => by rw [scan]; exact other) plain
  case case18 rest => exact .pair .and '&' rest rfl rfl nofun fun _ => rfl
  case case19 rest => exact .pair .or '|' rest rfl rfl nofun fun _ => rfl
  case case20 => exact .quoted ‹_›
  case case21 => exact .number ‹_›
  case case22 => exact .word ‹_› ‹_›
  case case23 =>
    apply Front.refused
    rw [scan]
    · rw [if_neg ‹¬(c = '"' ∨ c = '\x27')›, if_neg ‹¬c.isDigit = true›,
        if_neg ‹¬isWordChar c = true›]
    all_goals assumption

/-- The characters that marks start with. -/
def markChars : List Char :=
  ['(', ')', '[', ']', '.', '+', '-', '*', '/', '%', '=', '!', '<', '>', '&', '|']

/-- What no mark starts is a quoted text, a number or a word, or it is refused. -/
theorem scan_of_not_mark (other : c ∉ markChars) (cs : List Char) :
  scan c cs
    = if c = '"' ∨ c = '\x27' then scanString c cs
      else if c.isDigit then .ok (scanNumber (c :: cs))
      else if isWordChar c then .ok (scanWord (c :: cs))
      else .error (.unexpected c)
  := by
  rw [scan.eq_def]
  split
  all_goals first
    | exact absurd (by decide) other
    | rfl

/-- A quote is the start of a quoted text. -/
theorem scan_quote (quote : c = '"' ∨ c = '\x27') (cs : List Char) :
  scan c cs = scanString c cs
  := by
  have other : c ∉ markChars := by rcases quote with rfl | rfl <;> decide
  rw [scan_of_not_mark other, if_pos quote]

/-- A digit is the start of a number. -/
theorem scan_digit (digit : c.isDigit = true) (cs : List Char) :
  scan c cs = .ok (scanNumber (c :: cs))
  := by
  have other : c ∉ markChars := by
    intro mark
    have none : markChars.all (!·.isDigit) = true := rfl
    have alien := List.all_eq_true.mp none c mark
    rw [digit] at alien
    cases alien
  have plain : ¬(c = '"' ∨ c = '\x27') := by
    rintro (rfl | rfl) <;> exact absurd digit (by decide)
  rw [scan_of_not_mark other, if_neg plain, if_pos digit]

/-- Another character of words is the start of a word. -/
theorem scan_word (first : isWordChar c = true) (letter : ¬c.isDigit = true) (cs : List Char) :
  scan c cs = .ok (scanWord (c :: cs))
  := by
  have other : c ∉ markChars := by
    intro mark
    have none : markChars.all (!isWordChar ·) = true := rfl
    have alien := List.all_eq_true.mp none c mark
    rw [first] at alien
    cases alien
  have plain : ¬(c = '"' ∨ c = '\x27') := by
    rintro (rfl | rfl) <;> exact absurd first (by decide)
  rw [scan_of_not_mark other, if_neg plain, if_neg letter, if_pos first]

/-! ### What is taken -/

/-- A number is taken from the front. -/
theorem scanNumber_text (cs : List Char) :
  (scanNumber cs).text ++ (scanNumber cs).rest = cs
  := by
  have whole : cs.takeWhile Char.isDigit ++ cs.dropWhile Char.isDigit = cs :=
    List.takeWhile_append_dropWhile
  rw [scanNumber]
  dsimp only
  split
  next d tail point =>
    have parts : (d :: tail).takeWhile Char.isDigit ++ (d :: tail).dropWhile Char.isDigit
        = d :: tail := List.takeWhile_append_dropWhile
    split
    next =>
      rw [List.append_assoc, List.cons_append, parts, ← point]
      exact whole
    next => exact whole
  next => exact whole

/-- A piece is taken from the front, and the rest is left. -/
theorem scan_text (h : scan c cs = .ok piece) :
  piece.text ++ piece.rest = c :: cs
  := by
  cases Front.total c cs with
  | mark _ _ _ scanned =>
    obtain rfl := Except.ok.inj ((scanned cs id).symm.trans h)
    rfl
  | pair _ _ rest behind _ _ scanned =>
    subst behind
    obtain rfl := Except.ok.inj ((scanned rest).symm.trans h)
    rfl
  | quoted quote =>
    rw [scan_quote quote, scanString] at h
    split at h
    next value text rest inner =>
      obtain rfl := Except.ok.inj h
      exact congrArg (c :: ·) (scanQuoted_text inner)
    next => cases h
  | number digit =>
    obtain rfl := Except.ok.inj ((scan_digit digit cs).symm.trans h)
    exact scanNumber_text (c :: cs)
  | word first letter =>
    obtain rfl := Except.ok.inj ((scan_word first letter cs).symm.trans h)
    exact List.takeWhile_append_dropWhile
  | refused scanned => cases scanned.symm.trans h

/-- What is taken starts with the first character. -/
theorem scan_text_cons (h : scan c cs = .ok piece) :
  ∃ text, piece.text = c :: text
  := by
  cases Front.total c cs with
  | mark t _ _ scanned =>
    obtain rfl := Except.ok.inj ((scanned cs id).symm.trans h)
    exact ⟨[], rfl⟩
  | pair t d rest behind _ _ scanned =>
    subst behind
    obtain rfl := Except.ok.inj ((scanned rest).symm.trans h)
    exact ⟨[d], rfl⟩
  | quoted quote =>
    rw [scan_quote quote, scanString] at h
    split at h
    next value text rest _ =>
      obtain rfl := Except.ok.inj h
      exact ⟨text, rfl⟩
    next => cases h
  | number digit =>
    rw [scan_digit digit] at h
    obtain rfl := Except.ok.inj h
    have whole : (c :: cs).takeWhile Char.isDigit = c :: cs.takeWhile Char.isDigit :=
      List.takeWhile_cons_of_pos digit
    rw [scanNumber, whole]
    dsimp only
    split
    next =>
      split
      next => exact ⟨_, List.cons_append ..⟩
      next => exact ⟨_, rfl⟩
    next => exact ⟨_, rfl⟩
  | word first letter =>
    rw [scan_word first letter] at h
    obtain rfl := Except.ok.inj h
    exact ⟨_, List.takeWhile_cons_of_pos first⟩
  | refused scanned => cases scanned.symm.trans h

/-! ### What a blank ends -/

/-- A blank is no digit, no character of words, and no equality sign or point. -/
theorem not_word_of_blank (blank : isBlank b = true) :
  b.isDigit = false ∧ isWordChar b = false ∧ b ≠ '=' ∧ b ≠ '.'
  := by
  simp only [isBlank, Bool.or_eq_true, decide_eq_true_eq] at blank
  rcases blank with (((rfl | rfl) | rfl) | rfl) | rfl <;> decide

/-- What is taken by a test ends where the test fails. -/
theorem span_append_of_neg {p : Char → Bool} (stops : p b = false) (cs ds : List Char) :
  (cs ++ b :: ds).takeWhile p = cs.takeWhile p
    ∧ (cs ++ b :: ds).dropWhile p = cs.dropWhile p ++ b :: ds
  := by
  have other : ¬p b = true := Bool.eq_false_iff.mp stops
  induction cs with
  | nil => exact ⟨List.takeWhile_cons_of_neg other, List.dropWhile_cons_of_neg other⟩
  | cons c cs ih =>
    rw [List.cons_append, List.takeWhile_cons, List.takeWhile_cons, List.dropWhile_cons,
      List.dropWhile_cons, ih.1, ih.2]
    cases p c <;> simp

/-- A number ends before a blank. -/
theorem scanNumber_append_blank (blank : isBlank b = true) (cs ds : List Char) :
  scanNumber (cs ++ b :: ds) = { scanNumber cs with rest := (scanNumber cs).rest ++ b :: ds }
  := by
  obtain ⟨digit, -, -, point⟩ := not_word_of_blank blank
  have span := span_append_of_neg digit
  rw [scanNumber, scanNumber, (span cs ds).1, (span cs ds).2]
  generalize cs.dropWhile Char.isDigit = rest
  dsimp only
  rcases rest with _ | ⟨p, _ | ⟨d, tail⟩⟩
  · simp [point]
  · by_cases own : p = '.'
    · simp [own, digit]
    · simp [own]
  · by_cases own : p = '.'
    · subst own
      have after := span (d :: tail) ds
      rw [List.cons_append] at after
      simp only [List.cons_append, after]
      split <;> rfl
    · simp [own]

/-- What is taken stays the same when a blank follows. -/
theorem scan_append_blank (h : scan c cs = .ok piece) (blank : isBlank b = true) (ds : List Char) :
  scan c (cs ++ b :: ds) = .ok { piece with rest := piece.rest ++ b :: ds }
  := by
  obtain ⟨-, letter, equality, -⟩ := not_word_of_blank blank
  cases Front.total c cs with
  | mark t _ _ scanned =>
    obtain rfl := Except.ok.inj ((scanned cs id).symm.trans h)
    apply scanned
    intro follows
    -- At the end, what follows now is the blank, which is no equality sign.
    cases cs with
    | nil => exact absurd (Option.some.inj follows) equality
    | cons d cs => exact follows
  | pair t d rest behind _ _ scanned =>
    subst behind
    obtain rfl := Except.ok.inj ((scanned rest).symm.trans h)
    exact scanned (rest ++ b :: ds)
  | quoted quote =>
    rw [scan_quote quote, scanString] at h ⊢
    split at h
    next value text rest inner =>
      obtain rfl := Except.ok.inj h
      rw [scanQuoted_append quote inner]
    next => cases h
  | number digit =>
    rw [scan_digit digit] at h ⊢
    obtain rfl := Except.ok.inj h
    exact congrArg Except.ok (scanNumber_append_blank blank (c :: cs) ds)
  | word first plain =>
    rw [scan_word first plain] at h ⊢
    obtain rfl := Except.ok.inj h
    obtain ⟨taken, left⟩ := span_append_of_neg letter (c :: cs) ds
    rw [List.cons_append] at taken left
    rw [scanWord, scanWord, taken, left]
  | refused scanned => cases scanned.symm.trans h

/-! ### Tokens one after another -/

variable {behind : List Char} {offset : Nat} {ts us : List Lexeme}

/-- The tokens that are taken from the front of a text, with what is behind it in sight, and the
offsets at which they start. -/
inductive Lexes (behind : List Char) : Nat → List Char → List Lexeme → Prop
  /-- Nothing is taken. -/
  | done (offset : Nat) :
    Lexes behind offset [] []
  /-- A blank is passed over. -/
  | blank {offset : Nat} {c : Char} {cs : List Char} {ts : List Lexeme} (blank : isBlank c = true)
      (rest : Lexes behind (offset + c.utf8Size) cs ts) :
    Lexes behind offset (c :: cs) ts
  /-- A token is taken. -/
  | token {offset : Nat} {c : Char} {text cs : List Char} {t : Token} {ts : List Lexeme}
      (solid : isBlank c = false)
      (scanned : scan c (text ++ (cs ++ behind)) = .ok ⟨t, c :: text, cs ++ behind⟩)
      (rest : Lexes behind (offset + byteLength (c :: text)) cs ts) :
    Lexes behind offset (c :: text ++ cs) (⟨t, offset⟩ :: ts)

namespace Lexes

/-- Tokens that are taken one after the other are taken together. -/
theorem trans (first : Lexes (cs ++ behind) offset ds ts)
    (second : Lexes behind (offset + byteLength ds) cs us) :
  Lexes behind offset (ds ++ cs) (ts ++ us)
  := by
  induction first with
  | done offset => exact second
  | blank blank _ ih =>
    apply Lexes.blank blank
    apply ih
    rwa [Nat.add_assoc]
  | @token offset c text front t ts solid scanned _ ih =>
    rw [← List.append_assoc front] at scanned
    rw [List.append_assoc]
    apply Lexes.token solid scanned
    apply ih
    rwa [Nat.add_assoc, ← byteLength_append]

/-- Blanks are no tokens. -/
theorem of_blanks (blank : ∀ c ∈ cs, isBlank c = true) (behind : List Char) (offset : Nat) :
  Lexes behind offset cs []
  := by
  induction cs generalizing offset with
  | nil => exact .done offset
  | cons c cs ih =>
    obtain ⟨first, rest⟩ := List.forall_mem_cons.mp blank
    exact .blank first (ih rest _)

/-- Tokens stay the same when a blank follows. -/
theorem append_blank (h : Lexes behind offset cs ts) (blank : isBlank b = true) (ds : List Char) :
  Lexes (behind ++ b :: ds) offset cs ts
  := by
  induction h with
  | done offset => exact .done offset
  | blank own _ ih => exact .blank own ih
  | token solid scanned _ ih =>
    have longer := scan_append_blank scanned blank ds
    rw [List.append_assoc, List.append_assoc] at longer
    exact .token solid longer ih

/-- A token is taken from the characters that start at its offset. -/
theorem exists_of_mem (h : Lexes behind offset cs ts) {t : Lexeme} (mem : t ∈ ts) :
  ∃ front c text rest, cs = front ++ (c :: text ++ rest) ∧ t.offset = offset + byteLength front
    ∧ scan c (text ++ (rest ++ behind)) = .ok ⟨t.token, c :: text, rest ++ behind⟩
  := by
  induction h with
  | done offset => cases mem
  | @blank offset b cs ts _ _ ih =>
    obtain ⟨front, c, text, rest, rfl, place, scanned⟩ := ih mem
    exact ⟨b :: front, c, text, rest, rfl, by rw [place, byteLength, Nat.add_assoc], scanned⟩
  | @token offset b own cs t' ts _ scanned _ ih =>
    rcases List.mem_cons.mp mem with rfl | mem
    · exact ⟨[], b, own, cs, rfl, rfl, scanned⟩
    · obtain ⟨front, c, text, rest, rfl, place, scanned⟩ := ih mem
      refine ⟨b :: own ++ front, c, text, rest, (List.append_assoc ..).symm, ?_, scanned⟩
      rw [place, byteLength_append, Nat.add_assoc]

/-- The reader takes the tokens, and goes on behind them. -/
theorem lexemesFrom_append (h : Lexes behind offset cs ts) {fuel : Nat}
    (enough : (cs ++ behind).length ≤ fuel) :
  ∃ fuel' ≥ behind.length, lexemesFrom fuel offset (cs ++ behind)
    = (lexemesFrom fuel' (offset + byteLength cs) behind).map (ts ++ ·)
  := by
  have same (result : Except ConditionError (List Lexeme)) : result = result.map ([] ++ ·) := by
    cases result <;> rfl
  induction h generalizing fuel with
  | done offset => exact ⟨fuel, enough, same _⟩
  | @blank offset c cs ts blank _ ih =>
    cases fuel with
    | zero => cases enough
    | succ fuel =>
      obtain ⟨fuel', enough', after⟩ := ih (Nat.le_of_succ_le_succ enough)
      refine ⟨fuel', enough', ?_⟩
      rw [List.cons_append, lexemesFrom, if_pos blank, after, byteLength, Nat.add_assoc]
  | @token offset c text cs t ts solid scanned _ ih =>
    cases fuel with
    | zero => cases enough
    | succ fuel =>
      have left : (cs ++ behind).length ≤ fuel := by
        simp only [List.cons_append, List.length_cons, List.length_append] at enough ⊢
        omega
      obtain ⟨fuel', enough', after⟩ := ih left
      refine ⟨fuel', enough', ?_⟩
      have dark : ¬isBlank c = true := Bool.eq_false_iff.mp solid
      rw [List.append_assoc, List.cons_append, lexemesFrom, if_neg dark, scanned]
      dsimp only
      rw [after, byteLength_append, Nat.add_assoc]
      cases lexemesFrom fuel' (offset + (byteLength (c :: text) + byteLength cs)) behind <;> rfl

/-- Every text is taken up to its end, or up to a character that is refused. -/
theorem all_or_refused (cs : List Char) (offset : Nat) :
  (∃ ts, Lexes [] offset cs ts)
    ∨ ∃ front c behind ts refusal, cs = front ++ c :: behind ∧ Lexes (c :: behind) offset front ts
      ∧ isBlank c = false ∧ scan c behind = .error refusal
  := by
  -- A token takes more than one character at times, so the induction is on the length.
  induction length : cs.length using Nat.strongRecOn generalizing cs offset with
  | ind n ih =>
    subst length
    cases cs with
    | nil => exact .inl ⟨[], .done offset⟩
    | cons c cs =>
      cases blank : isBlank c with
      | true =>
        rcases ih _ (Nat.lt_succ_self _) cs (offset + c.utf8Size) rfl with ⟨ts, all⟩ | refused
        · exact .inl ⟨ts, .blank blank all⟩
        · obtain ⟨front, d, behind, ts, refusal, rfl, taken, solid, scanned⟩ := refused
          exact .inr ⟨c :: front, d, behind, ts, refusal, rfl, .blank blank taken, solid, scanned⟩
      | false =>
        cases scanned : scan c cs with
        | error refusal => exact .inr ⟨[], c, cs, [], refusal, rfl, .done offset, blank, scanned⟩
        | ok piece =>
          obtain ⟨t, text, rest⟩ := piece
          have split := scan_text scanned
          obtain ⟨text, rfl⟩ := scan_text_cons scanned
          obtain rfl : text ++ rest = cs := (List.cons.inj split).2
          have shorter : rest.length < (c :: (text ++ rest)).length := by
            simp only [List.length_cons, List.length_append]
            omega
          rcases ih _ shorter rest (offset + byteLength (c :: text)) rfl with ⟨ts, all⟩ | refused
          · refine .inl ⟨⟨t, offset⟩ :: ts, ?_⟩
            rw [← List.append_nil rest] at scanned
            exact .token blank scanned all
          · obtain ⟨front, d, behind, ts, refusal, rfl, taken, solid, scanned'⟩ := refused
            refine .inr ⟨c :: text ++ front, d, behind, ⟨t, offset⟩ :: ts, refusal, ?_, ?_, solid,
              scanned'⟩
            · rw [List.append_assoc, List.cons_append]
            · exact .token blank scanned taken

/-- The tokens of a text that is taken up to its end. -/
theorem tokenize_eq {source : String} (all : Lexes [] 0 source.toList ts) :
  tokenize source = .ok (ts ++ [⟨.finish, source.utf8ByteSize⟩])
  := by
  have enough : (source.toList ++ []).length ≤ source.length := by
    apply Nat.le_of_eq
    rw [List.append_nil, String.length_toList]
  obtain ⟨fuel, -, found⟩ := all.lexemesFrom_append enough
  rw [List.append_nil, Nat.zero_add, byteLength_toList] at found
  have last : lexemesFrom fuel source.utf8ByteSize [] = .ok [⟨.finish, source.utf8ByteSize⟩] := by
    cases fuel <;> rfl
  exact found.trans (congrArg (Except.map (ts ++ ·)) last)

/-- The refusal of a text that is taken up to some character. -/
theorem tokenize_eq_error {source : String} {front : List Char} {refusal : Refusal}
    (taken : Lexes (c :: behind) 0 front ts) (split : source.toList = front ++ c :: behind)
    (solid : isBlank c = false) (scanned : scan c behind = .error refusal) :
  tokenize source = .error (.malformed (byteLength front) refusal.message)
  := by
  have enough : (front ++ c :: behind).length ≤ source.length := by
    apply Nat.le_of_eq
    rw [← split, String.length_toList]
  obtain ⟨fuel, left, found⟩ := taken.lexemesFrom_append enough
  have dark : ¬isBlank c = true := Bool.eq_false_iff.mp solid
  cases fuel with
  | zero => cases left
  | succ fuel =>
    rw [lexemesFrom, if_neg dark, scanned, Nat.zero_add, ← split] at found
    exact found

end Lexes

/-- A text has tokens if it is taken up to its end, and the end marker stands at its length. -/
theorem tokenize_eq_ok_iff {source : String} :
  tokenize source = .ok ts
    ↔ ∃ body, Lexes [] 0 source.toList body ∧ ts = body ++ [⟨.finish, source.utf8ByteSize⟩]
  := by
  constructor
  · intro read
    rcases Lexes.all_or_refused source.toList 0 with ⟨body, all⟩ | refused
    · exact ⟨body, all, Except.ok.inj (read.symm.trans all.tokenize_eq)⟩
    · obtain ⟨front, c, behind, body, refusal, split, taken, solid, scanned⟩ := refused
      cases read.symm.trans (taken.tokenize_eq_error split solid scanned)
  · rintro ⟨body, all, rfl⟩
    exact all.tokenize_eq

/-- A text has no tokens if it is taken up to a character that is refused. -/
theorem tokenize_eq_error_iff {source : String} {e : ConditionError} :
  tokenize source = .error e
    ↔ ∃ front c behind body refusal, source.toList = front ++ c :: behind
      ∧ Lexes (c :: behind) 0 front body ∧ isBlank c = false ∧ scan c behind = .error refusal
      ∧ e = .malformed (byteLength front) refusal.message
  := by
  constructor
  · intro read
    rcases Lexes.all_or_refused source.toList 0 with ⟨body, all⟩ | refused
    · cases read.symm.trans all.tokenize_eq
    · obtain ⟨front, c, behind, body, refusal, split, taken, solid, scanned⟩ := refused
      have same := Except.error.inj (read.symm.trans (taken.tokenize_eq_error split solid scanned))
      exact ⟨front, c, behind, body, refusal, split, taken, solid, scanned, same⟩
  · rintro ⟨front, c, behind, body, refusal, split, taken, solid, scanned, rfl⟩
    exact taken.tokenize_eq_error split solid scanned

end Instrumentation.Condition
