import Instrumentation.Condition.Parse
import Instrumentation.Proofs.Condition.Grammar
import Instrumentation.Proofs.Condition.Lexeme

/-!
# The reader and the grammar

A reader reads a form of expressions under a bound when what it takes from the front is derived
with a smaller nesting, and when it takes all of what is so derived, unless the tokens behind go
on with an expression of that form. The readers of all forms do, each because the readers of its
parts do; the budget of the reader bounds the nesting.

Hence the expressions of a text are those that its tokens derive, of which there is one at most.
-/

namespace Instrumentation.Condition

/-! ### Operators -/

/-- The operators of a precedence, by their tokens. -/
def Precedence.level : Precedence → Level
  | or => orLevel
  | and => andLevel
  | equality => equalityLevel
  | comparison => comparisonLevel
  | additive => additiveLevel
  | multiplicative => multiplicativeLevel

/-- How tightly a precedence binds. -/
def Precedence.strength : Precedence → Nat
  | or => 0
  | and => 1
  | equality => 2
  | comparison => 3
  | additive => 4
  | multiplicative => 5

/-- An operator continues the chain of its precedence. -/
theorem level_eq_some_iff {p : Precedence} {t : Token} {op : BinaryOp} :
  p.level t = some op ↔ op.precedence = p ∧ op.token = t
  := by
  constructor
  · intro h
    cases p <;> cases t <;> cases h <;> exact ⟨rfl, rfl⟩
  · rintro ⟨rfl, rfl⟩
    cases op <;> rfl

/-- Two operators have different tokens. -/
theorem token_injective {op op' : BinaryOp} (h : op.token = op'.token) :
  op = op'
  := by
  have found : op.precedence.level op'.token = some op := level_eq_some_iff.mpr ⟨rfl, h⟩
  cases op <;> cases op' <;> first | rfl | cases found

/-- How tightly the operators bind that stand outside an expression of a form, at least. -/
def Rank.strength : Rank → Nat
  | .chain p => p.strength
  | _ => 6

/-- The tokens that go on with an expression: operators that bind as tightly as its form or more
so, and what takes a member or an item. -/
def Rank.GoesOn : Rank → Token → Prop
  | .primary, _ => False
  | rank, t =>
    t = .dot ∨ t = .lbracket
      ∨ ∃ op : BinaryOp, op.token = t ∧ rank.strength ≤ op.precedence.strength

/-- The first of the tokens, if there is one, does not go on with an expression. -/
def Rank.Stops (rank : Rank) (rest : List Lexeme) : Prop :=
  ∀ t ∈ rest.head?, ¬rank.GoesOn t.token

variable {p : Precedence} {rank : Rank} {rest : List Lexeme}

/-- Operators that bind more tightly than those of a chain go on with its operands. -/
theorem goesOn_operand_iff {t : Token} :
  p.operand.GoesOn t
    ↔ t = .dot ∨ t = .lbracket
      ∨ ∃ op : BinaryOp, op.token = t ∧ p.strength < op.precedence.strength
  := by
  cases p <;> apply Iff.rfl

/-- What stops a chain stops its operands. -/
theorem stops_operand (h : (Rank.chain p).Stops rest) :
  p.operand.Stops rest
  := by
  intro t first on
  apply h t first
  rcases goesOn_operand_iff.mp on with dot | bracket | ⟨op, mark, lt⟩
  · exact .inl dot
  · exact .inr (.inl bracket)
  · exact .inr (.inr ⟨op, mark, Nat.le_of_lt lt⟩)

/-- An operator of a chain stops its operands. -/
theorem stops_operator {op : BinaryOp} {t : Lexeme} (own : op.precedence = p)
    (mark : op.token = t.token) :
  p.operand.Stops (t :: rest)
  := by
  intro u first on
  obtain rfl := Option.some.inj first
  rcases goesOn_operand_iff.mp on with dot | bracket | ⟨other, same, lt⟩
  · cases op <;> cases mark.trans dot
  · cases op <;> cases mark.trans bracket
  · rw [token_injective (same.trans mark.symm), own] at lt
    apply Nat.lt_irrefl _ lt

/-- A closing parenthesis or bracket stops every expression, and so does the end marker. -/
theorem stops_closing {t : Lexeme}
    (mark : t.token = .rparen ∨ t.token = .rbracket ∨ t.token = .finish) :
  rank.Stops (t :: rest)
  := by
  intro u first on
  obtain rfl := Option.some.inj first
  rcases rank
  case primary => exact on
  all_goals
    rcases on with eq | eq | ⟨op, eq, -⟩
    · simp [eq] at mark
    · simp [eq] at mark
    · rw [← eq] at mark
      cases op <;> simp [BinaryOp.token] at mark

/-! ### What a reader reads -/

/-- The reader takes an expression of a form from the front, nested less than the bound, and the
longest one that is there. -/
structure Reads (read : Reader) (rank : Rank) (bound : Nat) : Prop where
  /-- What is taken is such an expression. -/
  sound : ∀ {ts e rest}, read ts = .ok (e, rest) →
    ∃ front d, ts = front ++ rest ∧ d < bound ∧ Derives rank (front.map Lexeme.token) e d
  /-- Such an expression is taken, if what is behind it does not go on with it. -/
  complete : ∀ {front e d rest}, Derives rank (front.map Lexeme.token) e d → d < bound →
    rank.Stops rest → read (front ++ rest) = .ok (e, rest)

/-- Nothing is nested less than by none. -/
theorem reads_tooDeep :
  Reads tooDeep rank 0
  := by
  constructor
  · intro ts e rest h
    cases h
  · intro front e d rest _ lt
    cases lt

variable {bound : Nat} {read inner : Reader}

/-! ### Chains -/

/-- The rest of a chain adds operands to the first ones. -/
theorem chainRest_sound (operand : Reads read p.operand bound) {fuel : Nat} {left e : Expr}
    {ts rest front : List Lexeme} {d : Nat} (h : chainRest p.level read fuel left ts = .ok (e, rest))
    (lt : d < bound) (before : Derives (.chain p) (front.map Lexeme.token) left d) :
  ∃ more d', ts = more ++ rest ∧ d' < bound
    ∧ Derives (.chain p) ((front ++ more).map Lexeme.token) e d'
  := by
  induction fuel generalizing left ts front d with
  | zero =>
    rw [chainRest] at h
    obtain ⟨rfl, rfl⟩ := Prod.mk.inj (Except.ok.inj h)
    use [], d
    simpa using ⟨lt, before⟩
  | succ fuel ih =>
    cases ts with
    | nil =>
      rw [chainRest] at h
      obtain ⟨rfl, rfl⟩ := Prod.mk.inj (Except.ok.inj h)
      use [], d
      simpa using ⟨lt, before⟩
    | cons t ts =>
      rw [chainRest] at h
      split at h
      next =>
        obtain ⟨rfl, rfl⟩ := Prod.mk.inj (Except.ok.inj h)
        use [], d
        simpa using ⟨lt, before⟩
      next op continued =>
        obtain ⟨own, mark⟩ := level_eq_some_iff.mp continued
        obtain ⟨⟨right, after⟩, taken, goes⟩ := bind_eq_ok.mp h
        obtain ⟨us, d', rfl, lt', right⟩ := operand.sound taken
        have longer := Derives.binary op own before right
        rw [mark, ← List.map_cons, ← List.map_append] at longer
        obtain ⟨more, d'', rfl, lt'', whole⟩ := ih goes (Nat.max_lt.mpr ⟨lt, lt'⟩) longer
        rw [List.append_assoc] at whole
        exact ⟨t :: us ++ more, d'', by simp, lt'', whole⟩

/-- The reader of a chain runs through all operands that are derived, and goes on behind them. -/
theorem chainRest_complete (operand : Reads read p.operand bound) {front : List Lexeme} {e : Expr}
    {d : Nat} (h : Derives (.chain p) (front.map Lexeme.token) e d) (lt : d < bound)
    (stops : p.operand.Stops rest) :
  ∃ left behind, read (front ++ rest) = .ok (left, behind)
    ∧ ∀ fuel ≥ behind.length, ∃ fuel' ≥ rest.length,
      chainRest p.level read fuel left behind = chainRest p.level read fuel' e rest
  := by
  generalize form : Rank.chain p = rank at h
  generalize marks : front.map Lexeme.token = ts at h
  induction h generalizing front rest with
  | operand h _ =>
    obtain rfl := Rank.chain.inj form
    subst marks
    refine ⟨_, rest, operand.complete h lt stops, ?_⟩
    intro fuel enough
    exact ⟨fuel, enough, rfl⟩
  | binary op own _ right ih _ =>
    obtain rfl := Rank.chain.inj form
    obtain ⟨front, tail, rfl, rfl, tailMarks⟩ := List.map_eq_append_iff.mp marks
    obtain ⟨t, us, rfl, mark, rfl⟩ := List.map_eq_cons_iff.mp tailMarks
    obtain ⟨lt, lt'⟩ := Nat.max_lt.mp lt
    have next : p.operand.Stops (t :: (us ++ rest)) := stops_operator own mark.symm
    obtain ⟨left, behind, taken, goes⟩ := ih lt next rfl rfl
    rw [List.append_assoc, List.cons_append]
    use left, behind, taken
    intro fuel enough
    obtain ⟨fuel, enough, same⟩ := goes fuel enough
    cases fuel with
    | zero => cases enough
    | succ fuel =>
      use fuel
      constructor
      · simp at enough
        omega
      · have continued : p.level t.token = some op := level_eq_some_iff.mpr ⟨own, mark.symm⟩
        rw [same, chainRest, continued]
        dsimp only
        rw [operand.complete right lt' stops]
        rfl
  | _ => cases form

/-- The rest of a chain ends at what stops the chain. -/
theorem chainRest_stops (stops : (Rank.chain p).Stops rest) (fuel : Nat) (e : Expr) :
  chainRest p.level read fuel e rest = .ok (e, rest)
  := by
  cases fuel with
  | zero => rfl
  | succ fuel =>
    cases rest with
    | nil => rfl
    | cons t ts =>
      have alien : p.level t.token = none := by
        apply Option.eq_none_iff_forall_not_mem.mpr
        intro op continued
        obtain ⟨own, mark⟩ := level_eq_some_iff.mp continued
        apply stops t rfl
        exact .inr (.inr ⟨op, mark, own ▸ Nat.le_refl _⟩)
      rw [chainRest, alien]

/-- A chain is read if its operands are. -/
theorem reads_chain (operand : Reads read p.operand bound) :
  Reads (chain p.level read) (.chain p) bound
  := by
  constructor
  · intro ts e rest h
    obtain ⟨⟨left, behind⟩, taken, goes⟩ := bind_eq_ok.mp h
    obtain ⟨front, d, rfl, lt, first⟩ := operand.sound taken
    obtain ⟨more, d', rfl, lt', whole⟩ := chainRest_sound operand goes lt (.operand first)
    exact ⟨front ++ more, d', (List.append_assoc ..).symm, lt', whole⟩
  · intro front e d rest h lt stops
    obtain ⟨left, behind, taken, goes⟩ := chainRest_complete operand h lt (stops_operand stops)
    obtain ⟨fuel, enough, same⟩ := goes behind.length (Nat.le_refl _)
    rw [chain, taken]
    apply same.trans
    apply chainRest_stops stops

/-- An expression of the lowest precedence is read if the operands of the highest are. -/
theorem reads_expression (operand : Reads read .prefixed bound) :
  Reads (expression read) (.chain .or) bound
  := by
  have multiplicative : Reads _ (.chain .multiplicative) bound := reads_chain operand
  have additive : Reads _ (.chain .additive) bound := reads_chain multiplicative
  have comparison : Reads _ (.chain .comparison) bound := reads_chain additive
  have equality : Reads _ (.chain .equality) bound := reads_chain comparison
  have conjunction : Reads _ (.chain .and) bound := reads_chain equality
  exact reads_chain (p := .or) conjunction

/-! ### Literals, names and parentheses -/

/-- What is expected is the first token. -/
theorem expect_eq_ok {token : Token} {mark : String} {ts : List Lexeme} :
  expect token mark ts = .ok rest ↔ ∃ t, ts = t :: rest ∧ t.token = token
  := by
  cases ts with
  | nil => simp [expect]
  | cons t ts =>
    rw [expect]
    split
    next own =>
      constructor
      · intro h
        obtain rfl := Except.ok.inj h
        exact ⟨t, rfl, own⟩
      · rintro ⟨u, eq, -⟩
        rw [(List.cons.inj eq).2]
    next other =>
      constructor
      · intro h
        cases h
      · rintro ⟨u, eq, own⟩
        rw [← (List.cons.inj eq).1] at own
        contradiction

/-- A token that writes out a value is read as this value. -/
theorem primary_literal {t : Lexeme} {v : Json} (h : t.token.literal? = some v) :
  primary inner (t :: rest) = .ok (.literal v, rest)
  := by
  obtain ⟨t, offset⟩ := t
  cases t
  case int | float | str | yes | no | nothing =>
    obtain rfl := Option.some.inj h
    rfl
  all_goals cases h

/-- A primary expression is read if the expressions in parentheses are. -/
theorem reads_primary (nested : Reads inner (.chain .or) bound) :
  Reads (primary inner) .primary (bound + 1)
  := by
  have value {t : Lexeme} {ts rest : List Lexeme} {v : Json} {e : Expr}
      (h : .ok (Expr.literal v, ts) = Except.ok (ε := ConditionError) (e, rest))
      (mark : t.token.literal? = some v) :
      ∃ front d, t :: ts = front ++ rest ∧ d < bound + 1
        ∧ Derives .primary (front.map Lexeme.token) e d := by
    obtain ⟨rfl, rfl⟩ := Prod.mk.inj (Except.ok.inj h)
    exact ⟨[t], 0, rfl, Nat.succ_pos bound, .literal mark⟩
  constructor
  · intro ts e rest h
    cases ts with
    | nil => cases h
    | cons t ts =>
      obtain ⟨t, offset⟩ := t
      cases t
      case int n => apply value h rfl
      case float x => apply value h rfl
      case str s => apply value h rfl
      case yes => apply value h rfl
      case no => apply value h rfl
      case nothing => apply value h rfl
      case ident name =>
        obtain ⟨rfl, rfl⟩ := Prod.mk.inj (Except.ok.inj h)
        exact ⟨[⟨.ident name, offset⟩], 0, rfl, Nat.succ_pos bound, .name name⟩
      case lparen =>
        rw [primary] at h
        obtain ⟨⟨e, behind⟩, taken, h⟩ := bind_eq_ok.mp h
        obtain ⟨rest, closed, h⟩ := bind_eq_ok.mp h
        obtain ⟨rfl, rfl⟩ := Prod.mk.inj (Except.ok.inj h)
        obtain ⟨front, d, rfl, lt, inside⟩ := nested.sound taken
        obtain ⟨t, rfl, mark⟩ := expect_eq_ok.mp closed
        refine ⟨⟨.lparen, offset⟩ :: (front ++ [t]), d + 1, by simp, Nat.succ_lt_succ lt, ?_⟩
        simpa [mark] using Derives.paren inside
      all_goals cases h
  · intro front e d rest h lt _
    generalize marks : front.map Lexeme.token = ts at h
    cases h with
    | literal mark =>
      obtain ⟨t, rfl, rfl⟩ := List.map_eq_singleton_iff.mp marks
      apply primary_literal mark
    | name name =>
      obtain ⟨t, rfl, mark⟩ := List.map_eq_singleton_iff.mp marks
      rw [List.singleton_append, primary, mark]
    | paren h =>
      obtain ⟨opening, tail, rfl, mark, tailMarks⟩ := List.map_eq_cons_iff.mp marks
      obtain ⟨front, last, rfl, rfl, lastMark⟩ := List.map_eq_append_iff.mp tailMarks
      obtain ⟨closing, rfl, mark'⟩ := List.map_eq_singleton_iff.mp lastMark
      have stops : (Rank.chain .or).Stops (closing :: rest) := stops_closing (.inl mark')
      rw [List.cons_append, List.append_assoc, primary, mark]
      dsimp only
      have taken := nested.complete h (Nat.lt_of_succ_lt_succ lt) stops
      have closed : expect .rparen "')'" (closing :: rest) = .ok rest :=
        expect_eq_ok.mpr ⟨closing, rfl, mark'⟩
      refine bind_eq_ok.mpr ⟨_, taken, ?_⟩
      exact bind_eq_ok.mpr ⟨_, closed, rfl⟩

/-! ### Members and items -/

/-- What is read as a primary expression is one more taken from. -/
theorem accesses_sound (nested : Reads inner (.chain .or) bound) {fuel : Nat} {base e : Expr}
    {ts rest front : List Lexeme} {d : Nat} (h : accesses inner fuel base ts = .ok (e, rest))
    (lt : d < bound + 1) (before : Derives .postfixed (front.map Lexeme.token) base d) :
  ∃ more d', ts = more ++ rest ∧ d' < bound + 1
    ∧ Derives .postfixed ((front ++ more).map Lexeme.token) e d'
  := by
  have unread {base e : Expr} {ts rest front : List Lexeme} {d : Nat}
      (h : .ok (base, ts) = Except.ok (ε := ConditionError) (e, rest)) (lt : d < bound + 1)
      (before : Derives .postfixed (front.map Lexeme.token) base d) :
      ∃ more d', ts = more ++ rest ∧ d' < bound + 1
        ∧ Derives .postfixed ((front ++ more).map Lexeme.token) e d' := by
    obtain ⟨rfl, rfl⟩ := Prod.mk.inj (Except.ok.inj h)
    use [], d
    refine ⟨rfl, lt, ?_⟩
    rwa [List.append_nil]
  induction fuel generalizing base ts front d with
  | zero => apply unread h lt before
  | succ fuel ih =>
    cases ts with
    | nil => apply unread h lt before
    | cons t ts =>
      rw [accesses.eq_def] at h
      dsimp only at h
      split at h
      next dot =>
        split at h
        next name offset tail =>
          have longer := Derives.member name before
          have marks : (front ++ [t, ⟨.ident name, offset⟩]).map Lexeme.token
              = front.map Lexeme.token ++ [.dot, .ident name] := by simp [dot]
          rw [← marks] at longer
          obtain ⟨more, d', rfl, lt', whole⟩ := ih h lt longer
          rw [List.append_assoc] at whole
          exact ⟨[t, ⟨.ident name, offset⟩] ++ more, d', by simp, lt', whole⟩
        next => cases h
      next bracket =>
        obtain ⟨⟨position, behind⟩, taken, goes⟩ := bind_eq_ok.mp h
        obtain ⟨tail, closed, goes⟩ := bind_eq_ok.mp goes
        obtain ⟨us, d', rfl, lt', inside⟩ := nested.sound taken
        obtain ⟨u, rfl, mark⟩ := expect_eq_ok.mp closed
        have longer := Derives.index before inside
        have marks : (front ++ t :: (us ++ [u])).map Lexeme.token
            = front.map Lexeme.token ++ .lbracket :: (us.map Lexeme.token ++ [.rbracket]) := by
          simp [bracket, mark]
        rw [← marks] at longer
        obtain ⟨more, d'', rfl, lt'', whole⟩ := ih goes (Nat.max_lt.mpr ⟨lt, by omega⟩) longer
        rw [List.append_assoc] at whole
        exact ⟨t :: (us ++ [u]) ++ more, d'', by simp, lt'', whole⟩
      next => apply unread h lt before

/-- The reader of members and items runs through all that are derived, and goes on behind them. -/
theorem accesses_complete (nested : Reads inner (.chain .or) bound) {front : List Lexeme} {e : Expr}
    {d : Nat} (h : Derives .postfixed (front.map Lexeme.token) e d) (lt : d < bound + 1) :
  ∃ base behind, primary inner (front ++ rest) = .ok (base, behind)
    ∧ ∀ fuel ≥ behind.length, ∃ fuel' ≥ rest.length,
      accesses inner fuel base behind = accesses inner fuel' e rest
  := by
  generalize form : Rank.postfixed = rank at h
  generalize marks : front.map Lexeme.token = ts at h
  induction h generalizing front rest with
  | primary h _ =>
    subst marks
    have stops : Rank.primary.Stops rest := fun _ _ on => on
    refine ⟨_, rest, (reads_primary nested).complete h lt stops, ?_⟩
    intro fuel enough
    exact ⟨fuel, enough, rfl⟩
  | member name _ ih =>
    obtain ⟨front, tail, rfl, rfl, tailMarks⟩ := List.map_eq_append_iff.mp marks
    obtain ⟨t, tail, rfl, dot, tailMarks⟩ := List.map_eq_cons_iff.mp tailMarks
    obtain ⟨⟨mark, offset⟩, rfl, own⟩ := List.map_eq_singleton_iff.mp tailMarks
    obtain rfl : mark = .ident name := own
    obtain ⟨base, behind, taken, goes⟩ := ih lt rfl rfl
    rw [List.append_assoc]
    refine ⟨base, behind, taken, ?_⟩
    intro fuel enough
    obtain ⟨fuel, enough, same⟩ := goes fuel enough
    cases fuel with
    | zero => cases enough
    | succ fuel =>
      use fuel
      constructor
      · simp at enough
        omega
      · rw [same]
        simp only [List.cons_append, List.nil_append, accesses, dot]
  | index _ position ih _ =>
    obtain ⟨front, tail, rfl, rfl, tailMarks⟩ := List.map_eq_append_iff.mp marks
    obtain ⟨t, tail, rfl, bracket, tailMarks⟩ := List.map_eq_cons_iff.mp tailMarks
    obtain ⟨us, last, rfl, rfl, lastMark⟩ := List.map_eq_append_iff.mp tailMarks
    obtain ⟨u, rfl, mark⟩ := List.map_eq_singleton_iff.mp lastMark
    obtain ⟨lt, lt'⟩ := Nat.max_lt.mp lt
    obtain ⟨base, behind, taken, goes⟩ := ih lt rfl rfl
    rw [List.append_assoc]
    refine ⟨base, behind, taken, ?_⟩
    intro fuel enough
    obtain ⟨fuel, enough, same⟩ := goes fuel enough
    cases fuel with
    | zero => cases enough
    | succ fuel =>
      use fuel
      constructor
      · simp at enough
        omega
      · have stops : (Rank.chain .or).Stops (u :: rest) := stops_closing (.inr (.inl mark))
        have inside := nested.complete position (Nat.lt_of_succ_lt_succ lt') stops
        have closed : expect .rbracket "']'" (u :: rest) = .ok rest :=
          expect_eq_ok.mpr ⟨u, rfl, mark⟩
        rw [same]
        simp only [List.cons_append, List.append_assoc, List.nil_append, accesses, bracket, inside,
          closed, bind, Except.bind]
  | _ => cases form

/-- Members and items end at what stops them. -/
theorem accesses_stops (stops : Rank.postfixed.Stops rest) (fuel : Nat) (e : Expr) :
  accesses inner fuel e rest = .ok (e, rest)
  := by
  cases fuel with
  | zero => rfl
  | succ fuel =>
    cases rest with
    | nil => rfl
    | cons t ts =>
      have no := stops t rfl
      rw [accesses.eq_def]
      dsimp only
      split
      next dot => exact absurd (.inl dot) no
      next bracket => exact absurd (.inr (.inl bracket)) no
      next => rfl

/-- An expression with members and items is read if the expressions in parentheses and brackets
are. -/
theorem reads_postfixed (nested : Reads inner (.chain .or) bound) :
  Reads (postfixed inner) .postfixed (bound + 1)
  := by
  constructor
  · intro ts e rest h
    obtain ⟨⟨base, behind⟩, taken, goes⟩ := bind_eq_ok.mp h
    obtain ⟨front, d, rfl, lt, first⟩ := (reads_primary nested).sound taken
    obtain ⟨more, d', rfl, lt', whole⟩ := accesses_sound nested goes lt (.primary first)
    exact ⟨front ++ more, d', (List.append_assoc ..).symm, lt', whole⟩
  · intro front e d rest h lt stops
    obtain ⟨base, behind, taken, goes⟩ : ∃ base behind,
        primary inner (front ++ rest) = .ok (base, behind) ∧ _ := accesses_complete nested h lt
    obtain ⟨fuel, enough, same⟩ := goes behind.length (Nat.le_refl _)
    rw [postfixed, taken]
    apply same.trans
    apply accesses_stops stops

/-! ### The whole reader -/

/-- The reader inside parentheses and brackets. -/
def nested : Nat → Reader
  | 0 => tooDeep
  | budget + 1 => expression (operand budget)

/-- The reader behind a prefix operator. -/
def behindPrefix : Nat → Reader
  | 0 => tooDeep
  | budget + 1 => operand budget

/-- An operand is one behind a prefix operator, or has none. -/
theorem operand_eq (budget : Nat) (ts : List Lexeme) :
  operand budget ts
    = match ts with
      | ⟨.not, _⟩ :: rest => do
        let (e, rest) ← behindPrefix budget rest
        return (.unary .not e, rest)
      | ⟨.minus, _⟩ :: rest => do
        let (e, rest) ← behindPrefix budget rest
        return (.unary .neg e, rest)
      | ts => postfixed (nested budget) ts
  := by
  cases ts with
  | nil => cases budget <;> rfl
  | cons t ts =>
    obtain ⟨t, offset⟩ := t
    cases t <;> cases budget <;> rfl

/-- An operand is read if what stands inside it and behind its prefix operators is. -/
theorem reads_prefixed (budget : Nat) (inside : Reads (nested budget) (.chain .or) bound)
    (behind : Reads (behindPrefix budget) .prefixed bound) :
  Reads (operand budget) .prefixed (bound + 1)
  := by
  have plain : Reads (postfixed (nested budget)) .postfixed (bound + 1) := reads_postfixed inside
  constructor
  · intro ts e rest h
    rw [operand_eq] at h
    split at h
    next offset ts =>
      obtain ⟨⟨e, rest⟩, taken, h⟩ := bind_eq_ok.mp h
      obtain ⟨rfl, rfl⟩ := Prod.mk.inj (Except.ok.inj h)
      obtain ⟨front, d, rfl, lt, derived⟩ := behind.sound taken
      exact ⟨⟨.not, offset⟩ :: front, d + 1, rfl, Nat.succ_lt_succ lt, .not derived⟩
    next offset ts =>
      obtain ⟨⟨e, rest⟩, taken, h⟩ := bind_eq_ok.mp h
      obtain ⟨rfl, rfl⟩ := Prod.mk.inj (Except.ok.inj h)
      obtain ⟨front, d, rfl, lt, derived⟩ := behind.sound taken
      exact ⟨⟨.minus, offset⟩ :: front, d + 1, rfl, Nat.succ_lt_succ lt, .neg derived⟩
    next =>
      obtain ⟨front, d, rfl, lt, derived⟩ := plain.sound h
      exact ⟨front, d, rfl, lt, .postfixed derived⟩
  · intro front e d rest h lt stops
    rw [operand_eq]
    generalize marks : front.map Lexeme.token = ts at h
    cases h with
    | not h =>
      obtain ⟨⟨t, offset⟩, front, rfl, own, rfl⟩ := List.map_eq_cons_iff.mp marks
      obtain rfl : t = .not := own
      have taken := behind.complete h (Nat.lt_of_succ_lt_succ lt) stops
      exact bind_eq_ok.mpr ⟨_, taken, rfl⟩
    | neg h =>
      obtain ⟨⟨t, offset⟩, front, rfl, own, rfl⟩ := List.map_eq_cons_iff.mp marks
      obtain rfl : t = .minus := own
      have taken := behind.complete h (Nat.lt_of_succ_lt_succ lt) stops
      exact bind_eq_ok.mpr ⟨_, taken, rfl⟩
    | postfixed h =>
      obtain ⟨t, us, first, not, minus⟩ := h.exists_first (.inl rfl)
      subst marks
      obtain ⟨⟨t, offset⟩, front, rfl, rfl, rfl⟩ := List.map_eq_cons_iff.mp first
      have taken := plain.complete h lt stops
      split
      next eq => exact absurd (congrArg Lexeme.token (List.cons.inj eq).1) not
      next eq => exact absurd (congrArg Lexeme.token (List.cons.inj eq).1) minus
      next => exact taken

/-- What stands inside parentheses and brackets is nested less than the budget allows. -/
theorem reads_operand (budget : Nat) :
  Reads (operand budget) .prefixed (budget + 1)
  := by
  induction budget with
  | zero => apply reads_prefixed 0 reads_tooDeep reads_tooDeep
  | succ budget ih => apply reads_prefixed (budget + 1) (reads_expression ih) ih

/-- The whole reader reads the lowest precedence, under the greatest budget. -/
theorem reads_whole :
  Reads (expression (operand maxNesting)) (.chain .or) 65
  := reads_expression (reads_operand maxNesting)

/-! ### Whole texts -/

/-- Tokens derive one expression at most. -/
theorem derives_unique {ts : List Token} {e e' : Expr} {d d' : Nat}
    (h : Derives (.chain .or) ts e d) (h' : Derives (.chain .or) ts e' d') :
  e = e'
  := by
  have whole : Reads (expression (operand (d + d'))) (.chain .or) (d + d' + 1) :=
    reads_expression (reads_operand (d + d'))
  have stops : (Rank.chain .or).Stops [] := fun t first => by cases first
  let front : List Lexeme := ts.map fun t => ⟨t, 0⟩
  have marks : front.map Lexeme.token = ts := by simp [front, Function.comp_def]
  have taken := whole.complete (marks.symm ▸ h) (by omega) stops
  have taken' := whole.complete (marks.symm ▸ h') (by omega) stops
  rw [taken] at taken'
  exact (Prod.mk.inj (Except.ok.inj taken')).1

/-- What is read up to the end is what stands before the end marker. -/
theorem front_eq_body {body front rest : List Lexeme} {last : Nat}
    (tokens : body ++ [⟨.finish, last⟩] = front ++ rest)
    (clean : ∀ t ∈ body, t.token ≠ .finish) (taken : .finish ∉ front.map Lexeme.token)
    (ended : ∀ t ∈ rest.head?, t.token = .finish) :
  front = body
  := by
  rcases List.append_eq_append_iff.mp tokens with ⟨more, rfl, eq⟩ | ⟨more, rfl, eq⟩
  · cases more with
    | nil => rw [List.append_nil]
    | cons t more =>
      obtain ⟨rfl, -⟩ := List.cons.inj eq
      simp at taken
  · cases more with
    | nil => rw [List.append_nil]
    | cons t more =>
      subst eq
      have marked : t.token = .finish := ended t rfl
      have unmarked : t.token ≠ .finish := clean t (by simp)
      contradiction

/-- What a text denotes is read from its tokens, up to the end marker. -/
theorem parse_eq_ok_iff {source : String} {e : Expr} :
  parse source = .ok e
    ↔ ∃ tokens rest, tokenize source = .ok tokens ∧ tokens.length ≤ 1024
      ∧ expression (operand maxNesting) tokens = .ok (e, rest)
      ∧ ∀ t ∈ rest.head?, t.token = .finish
  := by
  constructor
  · intro h
    obtain ⟨tokens, found, h⟩ := bind_eq_ok.mp h
    dsimp only at h
    split at h
    next => cases h
    next short =>
      obtain ⟨⟨e', rest⟩, taken, h⟩ := bind_eq_ok.mp h
      dsimp only at h
      refine ⟨tokens, rest, found, Nat.le_of_not_lt short, ?_⟩
      split at h
      next =>
        obtain rfl := Except.ok.inj h
        exact ⟨taken, by simp⟩
      next =>
        obtain rfl := Except.ok.inj h
        exact ⟨taken, by simp⟩
      next => cases h
  · rintro ⟨tokens, rest, found, short, taken, ended⟩
    refine bind_eq_ok.mpr ⟨tokens, found, ?_⟩
    dsimp only
    have fits : ¬maxTokens < tokens.length := Nat.not_lt.mpr short
    rw [if_neg fits]
    refine bind_eq_ok.mpr ⟨_, taken, ?_⟩
    cases rest with
    | nil => rfl
    | cons t tail =>
      obtain ⟨t, offset⟩ := t
      obtain rfl : t = .finish := ended _ rfl
      rfl

/-- A text denotes an expression exactly when it has tokens, 1024 at most with the end marker, and
those before the end marker derive the expression with 64 enclosing prefix operators, brackets and
parentheses at most. No tokens derive two expressions, however deep. -/
theorem parse_eq_ok_iff_derives :
  (∀ source e, parse source = .ok e
    ↔ ∃ body last, tokenize source = .ok (body ++ [⟨.finish, last⟩])
      ∧ (body ++ [⟨.finish, last⟩]).length ≤ 1024
      ∧ ∃ depth ≤ 64, Derives (.chain .or) (body.map Lexeme.token) e depth)
    ∧ ∀ ts e e' d d', Derives (.chain .or) ts e d → Derives (.chain .or) ts e' d' → e = e'
  := by
  constructor
  · intro source e
    constructor
    · intro h
      obtain ⟨tokens, rest, found, short, taken, ended⟩ := parse_eq_ok_iff.mp h
      obtain ⟨body, last, rfl, clean⟩ := tokenize_finish found
      obtain ⟨front, depth, tokens, lt, derived⟩ := reads_whole.sound taken
      obtain rfl := front_eq_body tokens clean derived.finish_not_mem ended
      exact ⟨front, last, found, short, depth, Nat.le_of_lt_succ lt, derived⟩
    · rintro ⟨body, last, found, short, depth, le, derived⟩
      have stops : (Rank.chain .or).Stops [⟨.finish, last⟩] := stops_closing (.inr (.inr rfl))
      have taken := reads_whole.complete derived (Nat.lt_succ_of_le le) stops
      apply parse_eq_ok_iff.mpr
      refine ⟨_, _, found, short, taken, ?_⟩
      intro t first
      rw [← Option.some.inj first]
  · intro ts e e' d d' h h'
    apply derives_unique h h'

end Instrumentation.Condition
