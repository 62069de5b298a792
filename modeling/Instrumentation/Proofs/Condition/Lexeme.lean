import Instrumentation.Condition.Lexeme
import Instrumentation.Proofs.Json.Decode

/-!
# The end marker

No piece of a text is the end marker. So the tokens of a text end with it, and it stands nowhere
before.
-/

namespace Instrumentation.Condition

variable {c : Char} {cs : List Char} {piece : Piece}

/-- A word is not the end marker. -/
theorem wordToken_ne_finish (word : List Char) :
  wordToken word ≠ .finish
  := by
  rw [wordToken]
  split <;> simp

/-- A number is not the end marker. -/
theorem numberToken_ne_finish (whole fraction : List Char) :
  numberToken whole fraction ≠ .finish
  := by
  rw [numberToken]
  split <;> simp

/-- The number at the front of a text is that of its digits, with a fraction or without. -/
theorem scanNumber_token (cs : List Char) :
  ∃ whole fraction, (scanNumber cs).token = numberToken whole fraction
  := by
  rw [scanNumber]
  dsimp only
  split
  · split
    · exact ⟨_, _, rfl⟩
    · exact ⟨_, _, rfl⟩
  · exact ⟨_, _, rfl⟩

/-- The number at the front of a text is not the end marker. -/
theorem scanNumber_ne_finish (cs : List Char) :
  (scanNumber cs).token ≠ .finish
  := by
  obtain ⟨whole, fraction, same⟩ := scanNumber_token cs
  rw [same]
  apply numberToken_ne_finish

/-- A quoted text is not the end marker. -/
theorem scanString_ne_finish {quote : Char} (h : scanString quote cs = .ok piece) :
  piece.token ≠ .finish
  := by
  rw [scanString] at h
  split at h
  · obtain rfl := Except.ok.inj h
    simp
  · cases h

/-- A mark of one character is not the end marker, if its token is not. -/
theorem single_ne_finish {token : Token} {rest : List Char} (ne : token ≠ .finish)
    (h : single token c rest = .ok piece) :
  piece.token ≠ .finish
  := by
  obtain rfl := Except.ok.inj h
  exact ne

/-- A mark of two characters is not the end marker, if its token is not. -/
theorem double_ne_finish {token : Token} {d : Char} {rest : List Char} (ne : token ≠ .finish)
    (h : double token c d rest = .ok piece) :
  piece.token ≠ .finish
  := by
  obtain rfl := Except.ok.inj h
  exact ne

/-- What is taken from the front of a text is not the end marker. -/
theorem scan_ne_finish (h : scan c cs = .ok piece) :
  piece.token ≠ .finish
  := by
  rw [scan.eq_def] at h
  split at h
  all_goals first
    | apply single_ne_finish (by simp) h
    | apply double_ne_finish (by simp) h
    | skip
  split at h
  · apply scanString_ne_finish h
  · split at h
    · obtain rfl := Except.ok.inj h
      apply scanNumber_ne_finish
    · split at h
      · obtain rfl := Except.ok.inj h
        apply wordToken_ne_finish
      · cases h

/-- The tokens of a text end with the end marker, which stands nowhere before. -/
theorem lexemesFrom_finish {fuel offset : Nat} {tokens : List Lexeme}
    (h : lexemesFrom fuel offset cs = .ok tokens) :
  ∃ body last, tokens = body ++ [⟨.finish, last⟩] ∧ ∀ t ∈ body, t.token ≠ .finish
  := by
  induction fuel, offset, cs using lexemesFrom.induct generalizing tokens with
  | case1 _ offset =>
    rw [lexemesFrom] at h
    obtain rfl := Except.ok.inj h
    use [], offset
    simp
  | case2 offset c cs =>
    rw [lexemesFrom] at h
    obtain rfl := Except.ok.inj h
    use [], offset
    simp
  | case3 fuel offset c cs blank ih =>
    rw [lexemesFrom, if_pos blank] at h
    apply ih h
  | case4 fuel offset c cs solid refusal scanned =>
    rw [lexemesFrom, if_neg solid, scanned] at h
    cases h
  | case5 fuel offset c cs solid piece scanned ih =>
    rw [lexemesFrom, if_neg solid, scanned] at h
    obtain ⟨rest, after, h⟩ := bind_eq_ok.mp h
    obtain rfl := Except.ok.inj h
    obtain ⟨body, last, rfl, clean⟩ := ih after
    use ⟨piece.token, offset⟩ :: body, last, rfl
    simpa using ⟨scan_ne_finish scanned, clean⟩

/-- The tokens of a text end with the end marker, which stands nowhere before. -/
theorem tokenize_finish {source : String} {tokens : List Lexeme}
    (h : tokenize source = .ok tokens) :
  ∃ body last, tokens = body ++ [⟨.finish, last⟩] ∧ ∀ t ∈ body, t.token ≠ .finish
  := lexemesFrom_finish h

end Instrumentation.Condition
