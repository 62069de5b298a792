import Instrumentation.Proofs.Condition.Lexing

/-!
# Texts side by side

What is taken from a text does not depend on where the text stands, and no token reaches over a
blank outside quotes. Hence the tokens of two texts with blanks between them are those of the first
one and then those of the second one, and if the second one is refused, so are both together at the
same character.
-/

namespace Instrumentation.Condition

/-- A token so many bytes later. -/
def Lexeme.later (t : Lexeme) (bytes : Nat) : Lexeme := { t with offset := t.offset + bytes }

namespace Lexes

variable {behind front cs ds : List Char} {offset : Nat} {ts us : List Lexeme}

/-- A text that stands so many bytes later has its tokens so many bytes later. -/
theorem later (h : Lexes behind offset cs ts) (bytes : Nat) :
  Lexes behind (offset + bytes) cs (ts.map (·.later bytes))
  := by
  induction h with
  | done offset => exact .done (offset + bytes)
  | blank blank _ ih =>
    apply Lexes.blank blank
    rwa [Nat.add_right_comm]
  | token solid scanned _ ih =>
    apply Lexes.token solid scanned
    rwa [Nat.add_right_comm]

/-- The tokens of a text, blanks, and then the tokens of another text. -/
theorem beside {ws : List Char} (first : Lexes [] 0 cs ts) (some : ws ≠ [])
    (blank : ∀ c ∈ ws, isBlank c = true) (second : Lexes behind 0 ds us) :
  Lexes behind 0 (cs ++ (ws ++ ds)) (ts ++ us.map (·.later (byteLength (cs ++ ws))))
  := by
  obtain ⟨w, ws, rfl⟩ := List.exists_cons_of_ne_nil some
  have before : Lexes (w :: ws ++ ds ++ behind) 0 cs ts :=
    first.append_blank (List.forall_mem_cons.mp blank).1 (ws ++ ds ++ behind)
  have apart : Lexes (ds ++ behind) (0 + byteLength cs) (w :: ws) [] := .of_blanks blank _ _
  have after := second.later (byteLength (cs ++ w :: ws))
  rw [byteLength_append, ← Nat.add_assoc] at after
  rw [byteLength_append]
  exact before.trans (apart.trans after)

end Lexes

/-- Two texts with blanks between them have the tokens of the first one, without its end marker, and
then those of the second one, each as many bytes later as the first one and the blanks take up. If
the second one has none, neither have both together: they are refused for the same reason, so many
bytes later. -/
theorem tokenize_append_blanks {a w b : String} {ts : List Lexeme} (read : tokenize a = .ok ts)
    (some : w ≠ "") (blank : ∀ c ∈ w.toList, isBlank c = true) :
  (∃ last, ts = ts.dropLast ++ [⟨.finish, last⟩])
    ∧ (∀ us, tokenize b = .ok us → tokenize (a ++ w ++ b)
      = .ok (ts.dropLast ++ us.map (·.later (a ++ w).utf8ByteSize)))
    ∧ ∀ e, tokenize b = .error e → ∃ position reason, e = .malformed position reason
      ∧ tokenize (a ++ w ++ b) = .error (.malformed (position + (a ++ w).utf8ByteSize) reason)
  := by
  obtain ⟨body, first, rfl⟩ := tokenize_eq_ok_iff.mp read
  have blanks : w.toList ≠ [] := fun none => some (String.toList_eq_nil_iff.mp none)
  have characters : (a ++ w ++ b).toList = a.toList ++ (w.toList ++ b.toList) := by
    rw [String.toList_append, String.toList_append, List.append_assoc]
  have length : byteLength (a.toList ++ w.toList) = (a ++ w).utf8ByteSize := by
    rw [← String.toList_append, byteLength_toList]
  rw [List.dropLast_concat]
  refine ⟨⟨_, rfl⟩, ?_, ?_⟩
  · intro us read'
    obtain ⟨body', second, rfl⟩ := tokenize_eq_ok_iff.mp read'
    have both := first.beside blanks blank second
    rw [length] at both
    refine tokenize_eq_ok_iff.mpr ⟨_, characters ▸ both, ?_⟩
    have last : (a ++ w ++ b).utf8ByteSize = b.utf8ByteSize + (a ++ w).utf8ByteSize := by
      rw [String.utf8ByteSize_append, Nat.add_comm]
    rw [List.map_append, List.append_assoc, last]
    rfl
  · intro e refused
    obtain ⟨front, c, behind, body', refusal, split, second, solid, scanned, rfl⟩ :=
      tokenize_eq_error_iff.mp refused
    have both := first.beside blanks blank second
    refine ⟨_, _, rfl, ?_⟩
    rw [Lexes.tokenize_eq_error both ?_ solid scanned, ← List.append_assoc, byteLength_append,
      length, Nat.add_comm]
    rw [characters, split, List.append_assoc, List.append_assoc]

/-- Behind a quoted text and a mark, with a tabulator and a space between them, a number is one more
token, though an equality sign right behind the mark would make it longer. An equality sign alone is
refused there as it is by itself. -/
theorem tokenize_append_blanks_apart :
  tokenize "'é' <" = .ok [⟨.str "é", 0⟩, ⟨.lt, 5⟩, ⟨.finish, 6⟩]
    ∧ "\t " ≠ "" ∧ (∀ c ∈ "\t ".toList, isBlank c = true)
    ∧ tokenize ("'é' <" ++ "\t " ++ "1")
      = .ok [⟨.str "é", 0⟩, ⟨.lt, 5⟩, ⟨.int 1, 8⟩, ⟨.finish, 9⟩]
    ∧ tokenize ("'é' <" ++ "\t " ++ "= 1") = .error (.malformed 8 "unexpected character '='")
  := by
  have read : tokenize "'é' <" = .ok [⟨.str "é", 0⟩, ⟨.lt, 5⟩, ⟨.finish, 6⟩] := rfl
  have some : "\t " ≠ "" := by decide
  have blank : ∀ c ∈ "\t ".toList, isBlank c = true := List.all_eq_true.mp rfl
  have one : tokenize "1" = .ok [⟨.int 1, 0⟩, ⟨.finish, 1⟩] := rfl
  have sign : tokenize "= 1" = .error (.malformed 0 "unexpected character '='") := rfl
  have taken := (tokenize_append_blanks (b := "1") read some blank).2.1 _ one
  obtain ⟨position, reason, same, refused⟩ :=
    (tokenize_append_blanks (b := "= 1") read some blank).2.2 _ sign
  obtain ⟨rfl, rfl⟩ := ConditionError.malformed.inj same
  exact ⟨read, some, blank, taken, refused⟩

end Instrumentation.Condition
