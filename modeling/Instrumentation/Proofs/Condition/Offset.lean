import Mathlib
import Instrumentation.Condition
import Instrumentation.Proofs.Condition.Lexing
import Instrumentation.Proofs.Condition.Parse

/-!
# Where tokens and failures stand

A token stands where a character starts that is no white space, and tokens stand one behind the
other, the end marker behind all of them. A text that is refused is refused at such a character too.

A reader that is given tokens up to the end marker leaves some of them up to the end marker, or it
fails at one of them. It never takes the end marker, since no operator, mark or operand is one. So
the place of a failure is that of a token, unless there are too many of them.
-/

namespace Instrumentation.Condition

/-! ### Characters -/

variable {c : Char} {cs : List Char}

/-- White space is no character of words. -/
theorem isWordChar_of_blank (blank : Text.isBlank c = true) :
  isWordChar c = false
  := by
  rw [Bool.eq_false_iff]
  intro word
  simp only [isWordChar, Bool.or_eq_true, decide_eq_true_eq] at word
  rcases word with ((word | rfl) | rfl) | rfl
  case inl.inl.inl =>
    simp only [Char.isAlphanum, Char.isAlpha, Char.isUpper, Char.isLower, Char.isDigit,
      Bool.or_eq_true, Bool.and_eq_true, decide_eq_true_eq, ge_iff_le, UInt32.le_iff_toNat_le,
      Char.reduceVal, UInt32.reduceToNat] at word
    simp only [Text.isBlank, Char.toNat, Bool.or_eq_true, Bool.and_eq_true, decide_eq_true_eq,
      beq_iff_eq] at blank
    omega
  all_goals cases blank

/-- What is taken does not start with white space. -/
theorem visible_of_scan {piece : Piece} (h : scan c cs = .ok piece) :
  Text.isBlank c = false
  := by
  have visible (word : isWordChar c = true) : Text.isBlank c = false := by
    rw [Bool.eq_false_iff]
    intro blank
    cases (isWordChar_of_blank blank).symm.trans word
  cases Front.total c cs with
  | mark _ own _ _ => exact own
  | pair _ _ _ _ own _ _ => exact own
  | quoted quote => rcases quote with rfl | rfl <;> rfl
  | number digit =>
    apply visible
    simp [isWordChar, Char.isAlphanum, digit]
  | word first _ => exact visible first
  | refused scanned => cases scanned.symm.trans h

/-- What is refused is a character that starts no token, or a quoted text without an end. -/
theorem refusal_of_scan {refusal : Refusal} (h : scan c cs = .error refusal) :
  refusal = .unexpected c ∨ refusal = .unterminated ∧ (c = '"' ∨ c = '\x27')
  := by
  cases Front.total c cs with
  | mark _ _ _ scanned => cases (scanned cs id).symm.trans h
  | pair _ _ rest behind _ _ scanned =>
    subst behind
    cases (scanned rest).symm.trans h
  | quoted quote =>
    rw [scan_quote quote, scanString] at h
    split at h
    next => cases h
    next => exact .inr ⟨(Except.error.inj h).symm, quote⟩
  | number digit => cases (scan_digit digit cs).symm.trans h
  | word first letter => cases (scan_word first letter cs).symm.trans h
  | refused scanned => exact .inl (Except.error.inj (h.symm.trans scanned))

/-! ### Tokens -/

variable {behind : List Char} {offset : Nat} {source : String} {ts us : List Lexeme}

/-- A character starts at a byte offset of a text, with some characters behind it. -/
def StartsAt (source : String) (offset : Nat) (c : Char) (behind : List Char) : Prop :=
  ∃ front, source.toList = front ++ c :: behind ∧ byteLength front = offset

/-- A character starts before the end, and between characters. -/
theorem StartsAt.isValid (h : StartsAt source offset c behind) :
  offset < source.utf8ByteSize ∧ (⟨offset⟩ : String.Pos.Raw).IsValid source
  := by
  obtain ⟨front, split, rfl⟩ := h
  constructor
  · have positive : 0 < c.utf8Size := c.utf8Size_pos
    rw [← byteLength_toList, split, byteLength_append, byteLength]
    omega
  · apply String.Pos.Raw.isValid_iff_exists_append.mpr
    refine ⟨String.ofList front, String.ofList (c :: behind), ?_, ?_⟩
    · rw [← String.ofList_append, ← split, String.ofList_toList]
    · rw [String.rawEndPos, ← byteLength_toList, String.toList_ofList]

namespace Lexes

/-- Tokens stand one behind the other. -/
theorem ascending (h : Lexes behind offset cs ts) :
  ts.Pairwise (·.offset < ·.offset)
  := by
  induction h with
  | done => exact .nil
  | blank _ _ ih => exact ih
  | @token offset c text cs t ts _ _ rest ih =>
    refine .cons ?_ ih
    intro u mem
    obtain ⟨front, _, _, _, -, place, -⟩ := rest.exists_of_mem mem
    have positive : 0 < c.utf8Size := c.utf8Size_pos
    rw [place, byteLength]
    dsimp only
    omega

end Lexes

/-- The tokens of a text stand one behind the other, each but the last where a character starts that
is no white space. The last one is the only end marker and stands at the length of the text. -/
theorem tokenize_offsets (read : tokenize source = .ok ts) :
  ts.Pairwise (·.offset < ·.offset)
    ∧ ∃ body, ts = body ++ [⟨.finish, source.utf8ByteSize⟩] ∧ ∀ t ∈ body, t.token ≠ .finish
      ∧ ∃ c behind, StartsAt source t.offset c behind ∧ Text.isBlank c = false
  := by
  obtain ⟨body, taken, rfl⟩ := tokenize_eq_ok_iff.mp read
  have starts : ∀ t ∈ body, t.token ≠ .finish
      ∧ ∃ c behind, StartsAt source t.offset c behind ∧ Text.isBlank c = false := by
    intro t mem
    obtain ⟨front, c, text, rest, split, place, scanned⟩ := taken.exists_of_mem mem
    rw [Nat.zero_add] at place
    exact ⟨scan_ne_finish scanned, c, text ++ rest, ⟨front, split, place.symm⟩,
      visible_of_scan scanned⟩
  refine ⟨List.pairwise_append.mpr ⟨taken.ascending, List.pairwise_singleton .., ?_⟩, body, rfl,
    starts⟩
  intro t mem u last
  obtain rfl := List.mem_singleton.mp last
  obtain ⟨-, c, rest, starts, -⟩ := starts t mem
  exact starts.isValid.1

/-! ### Readers -/

variable {α β : Type} {left : α → List Lexeme} {left' : β → List Lexeme}

/-- The last token is the end marker. -/
def Ended (ts : List Lexeme) : Prop := ∃ body last, ts = body ++ [⟨.finish, last⟩]

/-- Behind a token that is not the end marker there are more. -/
theorem Ended.tail {t : Lexeme} (ended : Ended (t :: ts)) (other : t.token ≠ .finish) :
  Ended ts
  := by
  obtain ⟨_ | ⟨u, body⟩, last, eq⟩ := ended
  · obtain ⟨rfl, -⟩ := List.cons.inj eq
    contradiction
  · exact ⟨body, last, (List.cons.inj eq).2⟩

/-- There are tokens up to the end marker. -/
theorem Ended.exists_cons (ended : Ended ts) :
  ∃ t us, ts = t :: us
  := by
  obtain ⟨body, last, rfl⟩ := ended
  exact List.exists_cons_of_ne_nil (by simp)

/-- What becomes of tokens up to the end marker: some of them are left up to the end marker, or one
of them is the place of a failure. -/
def Places (left : α → List Lexeme) (ts : List Lexeme) : Except ConditionError α → Prop
  | .ok a => left a <:+ ts ∧ Ended (left a)
  | .error e => ∃ t ∈ ts, ∃ reason, e = .malformed t.offset reason

namespace Places

/-- What is left of the last tokens is left of all, and a failure among them is one among all. -/
theorem mono {x : Except ConditionError α} (h : Places left us x) (last : us <:+ ts) :
  Places left ts x
  := by
  cases x with
  | ok a => exact ⟨h.1.trans last, h.2⟩
  | error e =>
    obtain ⟨t, mem, failed⟩ := h
    exact ⟨t, last.subset mem, failed⟩

/-- What is read one after the other. -/
theorem bind {x : Except ConditionError α} {f : α → Except ConditionError β}
    (first : Places left ts x) (second : ∀ a, Ended (left a) → Places left' (left a) (f a)) :
  Places left' ts (x >>= f)
  := by
  cases x with
  | ok a => exact (second a first.2).mono first.1
  | error e => exact first

end Places

/-- A reader takes no end marker, and fails at tokens only. -/
def Reader.Placed (read : Reader) : Prop := ∀ ts, Ended ts → Places Prod.snd ts (read ts)

variable {read inner : Reader} {level : Level}

/-- A failure to go deeper is placed at the first token. -/
theorem placed_tooDeep :
  tooDeep.Placed
  := by
  intro ts ended
  obtain ⟨t, ts, rfl⟩ := ended.exists_cons
  exact ⟨t, List.mem_cons_self, _, rfl⟩

/-- An expected token is taken, or its absence is placed. -/
theorem places_expect {token : Token} (other : token ≠ .finish) (mark : String)
    (ended : Ended ts) :
  Places id ts (expect token mark ts)
  := by
  obtain ⟨t, ts, rfl⟩ := ended.exists_cons
  rw [expect]
  split
  next same => exact ⟨List.suffix_cons t ts, ended.tail (same ▸ other)⟩
  next => exact ⟨t, List.mem_cons_self, _, rfl⟩

/-- The rest of a chain, of a level whose operators are no end markers. -/
theorem places_chainRest (operands : read.Placed) (closed : level .finish = none) (fuel : Nat)
    (e : Expr) (ended : Ended ts) :
  Places Prod.snd ts (chainRest level read fuel e ts)
  := by
  induction fuel generalizing e ts with
  | zero => exact ⟨List.suffix_refl ts, ended⟩
  | succ fuel ih =>
    obtain ⟨t, ts, rfl⟩ := ended.exists_cons
    rw [chainRest]
    split
    next => exact ⟨List.suffix_refl _, ended⟩
    next op operator =>
      have other : t.token ≠ .finish := by
        intro same
        rw [same, closed] at operator
        cases operator
      refine Places.mono ?_ (List.suffix_cons t ts)
      apply (operands ts (ended.tail other)).bind
      intro a ended
      apply ih _ ended

/-- A chain of placed operands. -/
theorem placed_chain (operands : read.Placed) (closed : level .finish = none) :
  (chain level read).Placed
  := by
  intro ts ended
  apply (operands ts ended).bind
  intro a ended
  apply places_chainRest operands closed _ _ ended

/-- An expression of placed operands. -/
theorem placed_expression (operands : read.Placed) :
  (expression read).Placed
  := by
  have closed : ∀ level ∈ levels, level .finish = none := by
    simp [levels, orLevel, andLevel, equalityLevel, comparisonLevel, additiveLevel,
      multiplicativeLevel]
  rw [expression]
  generalize levels = above at closed
  induction above with
  | nil => exact operands
  | cons level above ih =>
    obtain ⟨own, closed⟩ := List.forall_mem_cons.mp closed
    exact placed_chain (ih closed) own

/-- A primary expression with placed expressions in parentheses. -/
theorem placed_primary (nested : inner.Placed) :
  (primary inner).Placed
  := by
  intro ts ended
  obtain ⟨t, ts, rfl⟩ := ended.exists_cons
  have last : ts <:+ t :: ts := List.suffix_cons t ts
  -- The end marker is refused where it stands, so what is taken has more tokens behind it.
  by_cases final : t.token = .finish
  · simp only [primary, final]
    exact ⟨t, List.mem_cons_self, _, rfl⟩
  have taken : Ended ts := ended.tail final
  rw [primary]
  split
  case h_8 =>
    refine Places.mono ?_ last
    apply (nested ts taken).bind
    rintro ⟨e, us⟩ ended
    have other : Token.rparen ≠ .finish := by decide
    apply (places_expect other _ ended).bind
    intro rest ended
    exact ⟨List.suffix_refl rest, ended⟩
  case h_9 => contradiction
  case h_10 => exact ⟨t, List.mem_cons_self, _, rfl⟩
  all_goals exact ⟨last, taken⟩

/-- Members and items with placed expressions in brackets. -/
theorem places_accesses (nested : inner.Placed) (fuel : Nat) (e : Expr) (ended : Ended ts) :
  Places Prod.snd ts (accesses inner fuel e ts)
  := by
  induction fuel generalizing e ts with
  | zero => exact ⟨List.suffix_refl ts, ended⟩
  | succ fuel ih =>
    obtain ⟨t, ts, rfl⟩ := ended.exists_cons
    have last : ts <:+ t :: ts := List.suffix_cons t ts
    rw [accesses.eq_def]
    dsimp only
    split
    next dot =>
      have ended := ended.tail (by simp [dot])
      refine Places.mono ?_ last
      split
      next name offset rest _ => exact (ih _ (ended.tail (by simp))).mono (List.suffix_cons _ _)
      next =>
        obtain ⟨u, ts, rfl⟩ := ended.exists_cons
        exact ⟨u, List.mem_cons_self, _, rfl⟩
    next bracket =>
      have ended := ended.tail (by simp [bracket])
      refine Places.mono ?_ last
      apply (nested ts ended).bind
      rintro ⟨position, us⟩ ended
      have other : Token.rbracket ≠ .finish := by decide
      apply (places_expect other _ ended).bind
      intro rest ended
      apply ih _ ended
    next => exact ⟨List.suffix_refl _, ended⟩

/-- A primary expression with members and items. -/
theorem placed_postfixed (nested : inner.Placed) :
  (postfixed inner).Placed
  := by
  intro ts ended
  apply (placed_primary nested ts ended).bind
  intro a ended
  apply places_accesses nested _ _ ended

/-- An operand with what stands inside it and behind its prefix operators placed. -/
theorem placed_prefixed (budget : Nat) (inside : (nested budget).Placed)
    (behind : (behindPrefix budget).Placed) :
  (operand budget).Placed
  := by
  intro ts ended
  rw [operand_eq]
  split
  case h_3 => exact placed_postfixed inside ts ended
  all_goals
    refine Places.mono ?_ (List.suffix_cons _ _)
    apply (behind _ (ended.tail (by simp))).bind
    intro a ended
    exact ⟨List.suffix_refl _, ended⟩

/-- Operands are placed, whatever the budget. -/
theorem placed_operand (budget : Nat) :
  (operand budget).Placed
  := by
  induction budget with
  | zero => exact placed_prefixed 0 placed_tooDeep placed_tooDeep
  | succ budget ih => exact placed_prefixed (budget + 1) (placed_expression ih) ih

/-- A text with tokens that denotes nothing fails at one of them, or has too many. -/
theorem parse_position {e : ConditionError} (read : tokenize source = .ok ts)
    (failed : parse source = .error e) :
  ∃ position reason, e = .malformed position reason
    ∧ (maxTokens < ts.length ∧ position = 0 ∨ ∃ t ∈ ts, t.offset = position)
  := by
  obtain ⟨-, body, split, -⟩ := tokenize_offsets read
  have ended : Ended ts := ⟨body, _, split⟩
  have taken := placed_expression (placed_operand maxNesting) ts ended
  rw [parse, read] at failed
  dsimp only [bind, Except.bind] at failed
  split at failed
  next long =>
    obtain rfl := Except.error.inj failed
    exact ⟨_, _, rfl, .inl ⟨long, rfl⟩⟩
  next =>
    cases outcome : expression (operand maxNesting) ts with
    | error e' =>
      rw [outcome] at failed taken
      obtain rfl := Except.error.inj failed
      obtain ⟨t, mem, reason, rfl⟩ := taken
      exact ⟨_, reason, rfl, .inr ⟨t, mem, rfl⟩⟩
    | ok result =>
      rw [outcome] at failed taken
      dsimp only at failed
      split at failed
      next => cases failed
      next => cases failed
      next t rest _ left =>
        obtain rfl := Except.error.inj failed
        have mem : t ∈ ts := taken.1.subset (left ▸ List.mem_cons_self)
        exact ⟨_, _, rfl, .inr ⟨t, mem, rfl⟩⟩

/-! ### Texts -/

/-- The tokens of a text end with its only end marker, which stands at the length of the text, and
they stand one behind the other, each of the others inside the text where a character starts that is
no white space. A text that is not compiled fails at a character boundary: at the start if it has
too many tokens, at one of its tokens, or else, if it has no tokens, at a character that starts none
or at a quoted text without an end. -/
theorem offsets_usable (source : String) :
  (∀ ts, tokenize source = .ok ts →
    ts.Pairwise (·.offset < ·.offset)
      ∧ ∃ body, ts = body ++ [⟨.finish, source.utf8ByteSize⟩] ∧ ∀ t ∈ body, t.token ≠ .finish
        ∧ t.offset < source.utf8ByteSize ∧ (⟨t.offset⟩ : String.Pos.Raw).IsValid source
        ∧ ∃ c behind, StartsAt source t.offset c behind ∧ Text.isBlank c = false)
    ∧ ∀ e, Predicate.compile source = .error e →
      ∃ position reason, e = .malformed position reason
        ∧ position ≤ source.utf8ByteSize ∧ (⟨position⟩ : String.Pos.Raw).IsValid source
        ∧ ((∃ ts, tokenize source = .ok ts
            ∧ (maxTokens < ts.length ∧ position = 0 ∨ ∃ t ∈ ts, t.offset = position))
          ∨ ∃ c behind refusal, tokenize source = .error (.malformed position refusal.message)
            ∧ StartsAt source position c behind ∧ scan c behind = .error refusal
            ∧ (refusal = .unexpected c
              ∨ refusal = .unterminated ∧ (c = '"' ∨ c = '\x27')))
  := by
  constructor
  · intro ts read
    obtain ⟨ascending, body, split, starts⟩ := tokenize_offsets read
    refine ⟨ascending, body, split, ?_⟩
    intro t mem
    obtain ⟨marker, c, behind, start, visible⟩ := starts t mem
    exact ⟨marker, start.isValid.1, start.isValid.2, c, behind, start, visible⟩
  · intro e failed
    have unread : parse source = .error e := by
      rw [Predicate.compile] at failed
      cases outcome : parse source with
      | error e' =>
        rw [outcome] at failed
        exact congrArg Except.error (Except.error.inj failed)
      | ok p =>
        rw [outcome] at failed
        cases failed
    cases read : tokenize source with
    | ok ts =>
      obtain ⟨position, reason, rfl, place⟩ := parse_position read unread
      have valid : (⟨position⟩ : String.Pos.Raw).IsValid source := by
        rcases place with ⟨-, rfl⟩ | ⟨t, mem, rfl⟩
        · exact String.Pos.Raw.isValid_zero
        · obtain ⟨-, body, rfl, starts⟩ := tokenize_offsets read
          rcases List.mem_append.mp mem with mem | last
          · obtain ⟨-, c, behind, start, -⟩ := starts t mem
            exact start.isValid.2
          · obtain rfl := List.mem_singleton.mp last
            exact String.Pos.Raw.isValid_rawEndPos
      exact ⟨position, reason, rfl, valid.le_rawEndPos, valid, .inl ⟨ts, rfl, place⟩⟩
    | error e' =>
      obtain rfl : e' = e := by
        rw [parse, read] at unread
        exact Except.error.inj unread
      obtain ⟨front, c, behind, -, refusal, split, -, -, scanned, rfl⟩ :=
        tokenize_eq_error_iff.mp read
      have start : StartsAt source (byteLength front) c behind := ⟨front, split, rfl⟩
      exact ⟨_, _, rfl, Nat.le_of_lt start.isValid.1, start.isValid.2,
        .inr ⟨c, behind, refusal, rfl, start, scanned, refusal_of_scan scanned⟩⟩

end Instrumentation.Condition
