import Instrumentation.Proofs.Coalescing.Operations
import Instrumentation.Proofs.Life
import Instrumentation.Proofs.Stride.Sessions

/-!
# Duplicate installs

An identity is installed any number of times, by operations that run inside each other to any depth,
and no registration of it leaves the registry. Then there is one registration of the identity all
along. Its unit is patched once at most, and all installs are answered with its instrument. Only an
install that comes before it can be answered otherwise: when its condition cannot be read.
-/

namespace Instrumentation

/-! ### Runs in which registrations stay -/

namespace Conduct

/-- One thing that happens while the registrations of an identity stay. -/
structure StepKeeping (c : Conduct) (x : InstrumentId) (s s' : Session) : Prop where
  /-- It happens. -/
  step : c.Step s s'
  /-- What is registered stays. -/
  stays : ∀ n, s.engine.registry.Has x n → s'.engine.registry.Has x n

/-- A finite sequence of steps while the registrations of an identity stay. -/
abbrev Keeping (c : Conduct) (x : InstrumentId) : Session → Session → Prop :=
  Relation.ReflTransGen (c.StepKeeping x)

variable {c : Conduct} {x : InstrumentId} {s s' : Session}

/-- It is a run. -/
theorem Keeping.run (keeping : c.Keeping x s s') :
  c.Run s s'
  := Relation.ReflTransGen.mono (fun _ _ h => h.step) _ _ keeping

/-- What is registered stays. -/
theorem Keeping.stays (keeping : c.Keeping x s s') {n : Nat} (has : s.engine.registry.Has x n) :
  s'.engine.registry.Has x n
  := by
  induction keeping with
  | refl => exact has
  | tail _ step ih => apply step.stays n ih

/-- An action that is allowed happens, and what is registered stays. -/
theorem Allows.keeping {action : Action} (allowed : c.Allows s action)
    (stays : s.engine.registry.get? x = none
      ∨ ((s.act action).engine.registry.get? x).map Registration.serial
        = (s.engine.registry.get? x).map Registration.serial) :
  c.Keeping x s (s.act action)
  := by
  have keeps (n : Nat) (has : s.engine.registry.Has x n) :
      (s.act action).engine.registry.Has x n := by
    obtain ⟨r, found, rfl⟩ := has
    rcases stays with free | same
    · rw [free] at found
      cases found
    · rw [found, Option.map_some] at same
      exact Option.map_eq_some_iff.mp same
  cases action with
  | start op => exact .single ⟨.start s op allowed, keeps⟩
  | reply granted =>
    obtain ⟨e, waiting, finished⟩ := s
    cases waiting with
    | nil => exact .refl
    | cons p waiting =>
      exact .single ⟨.reply e p waiting finished (p.call.grant granted) allowed, keeps⟩

end Conduct

/-- What is registered in the end was registered all along. -/
theorem Engine.Keeps.before {c : Conduct} {settings : Settings} {clock : Instant}
    {x : InstrumentId} {n : Nat} {fits : Instrument → Prop} {s s' : Session}
    (run : c.Run (.idle (.new settings clock)) s) (keeping : c.Keeping x s s')
    (h : s'.engine.Keeps x n fits) :
  s.engine.Keeps x n fits
  := by
  have since := run.since
  have later := (run.since_later keeping.run).succeeds
  constructor
  · intro r found
    obtain ⟨r', found', serial⟩ := keeping.stays ⟨r, found, rfl⟩
    obtain ⟨number, fit⟩ := h.only found'
    have old := since.succeeds.sound.wellKept.serial_lt found
    rcases later.registry.stems found' with new | ⟨q, before, -, instrument⟩
    · omega
    · obtain rfl := Option.some.inj (found.symm.trans before)
      exact ⟨serial.symm.trans number, instrument ▸ fit⟩
  · intro old
    obtain ⟨r', found'⟩ := h.still (Nat.lt_of_lt_of_le old later.registry.nextSerial_le)
    have has : s'.engine.registry.Has x n := ⟨r', found', (h.only found').1⟩
    obtain ⟨r, found, -⟩ := has.before later.registry old
    exact ⟨r, found⟩

/-- The instrument is registered for the identity. -/
def Registry.Registers (g : Registry) (x : InstrumentId) (i : Instrument) : Prop :=
  ∃ r, g.get? x = some r ∧ r.instrument = i

/-- An engine keeps what it has registered. -/
theorem Engine.keeps_registered (e : Engine) (x : InstrumentId) :
  ∃ n, e.Keeps x n (e.registry.Registers x)
  := by
  cases found : e.registry.get? x with
  | some r =>
    use r.serial
    constructor
    · intro s again
      obtain rfl := Option.some.inj (found.symm.trans again)
      exact ⟨rfl, r, found, rfl⟩
    · intro _
      exact ⟨r, found⟩
  | none =>
    use e.registry.nextSerial
    constructor
    · intro s again
      rw [found] at again
      cases again
    · intro new
      exact absurd new (Nat.lt_irrefl _)

/-! ### The account of a session -/

/-- So many permits are held by the operations that wait, and so many patches are under way. Each
operation goes on with what those below it hold. -/
inductive Stacked (x : InstrumentId) (n : Nat) (fits : Instrument → Prop) :
    List Pending → Nat → Nat → Prop where
  /-- No operation waits. -/
  | nil : Stacked x n fits [] 0 0
  /-- An operation waits on top of others. -/
  | cons {p : Pending} {below : List Pending} {held underway : Nat} (more : Nat)
      (others : Stacked x n fits below held underway)
      (goesOn : ∀ answer e', e'.Keeps x n fits
        → e'.Accounted x n fits True (held + more + p.call.permits x)
            (underway + p.call.patches x)
        → (p.resume answer).Ensures (.keeping x n fits held underway)
            (fun a _ e => e.Accounted x n fits (p.op.Answers (Instrument.Coalesces fits x) a) held
              underway) () e') :
      Stacked x n fits (p :: below) (held + more + p.call.permits x) (underway + p.call.patches x)

/-- A patch that is under way has a permit. -/
theorem Stacked.le {x : InstrumentId} {n : Nat} {fits : Instrument → Prop} {waiting : List Pending}
    {held underway : Nat} (h : Stacked x n fits waiting held underway) :
  underway ≤ held
  := by
  induction h with
  | nil => apply Nat.le_refl
  | @cons p _ _ _ _ _ _ ih =>
    have few := p.call.patches_le_permits x
    omega

namespace Session

/-- The account of an identity, and of the answers that were given to its installs. -/
structure Accounts (s : Session) (x : InstrumentId) (n : Nat) (fits : Instrument → Prop) : Prop
    where
  /-- The account, with what is held by the operations that wait. -/
  account : ∃ held underway, Stacked x n fits s.waiting held underway
    ∧ s.engine.Accounted x n fits True held underway
  /-- The answers. -/
  answers : ∀ answered ∈ s.finished,
    answered.1.Answers (Instrument.Coalesces fits x) answered.2

variable {x : InstrumentId} {n : Nat} {fits : Instrument → Prop} {s s' : Session}

/-- An operation goes on up to its next call, or to its end. -/
theorem Accounts.proceed {op : Operation} {waiting : List Pending}
    {finished : List ((op : Operation) × op.Result)} {held underway : Nat} {e : Engine}
    {r : Routine op.Result} (others : Stacked x n fits waiting held underway)
    (answers : ∀ answered ∈ finished, answered.1.Answers (Instrument.Coalesces fits x) answered.2)
    (h : r.Ensures (.keeping x n fits held underway)
      (fun a _ e => e.Accounted x n fits (op.Answers (Instrument.Coalesces fits x) a) held underway)
      () e)
    (keeps : (proceed op waiting finished r e).engine.Keeps x n fits) :
  (proceed op waiting finished r e).Accounts x n fits
  := by
  induction r generalizing e with
  | done a =>
    have accounted : e.Accounted x n fits _ held underway := h
    constructor
    · exact ⟨held, underway, others, accounted.weaken fun _ => trivial⟩
    · intro answered mem
      rcases List.mem_cons.mp mem with rfl | mem
      · rcases accounted.tally with lost | ⟨known, -⟩
        · exact absurd lost keeps.not_lost
        · exact known
      · apply answers answered mem
  | read next ih => apply ih e h keeps
  | write e' next ih => apply ih h keeps
  | ask call next =>
    obtain ⟨more, accounted, goesOn⟩ := h keeps
    constructor
    · exact ⟨_, _, .cons (p := { op, call, resume := next }) more others goesOn, accounted⟩
    · exact answers

/-- One thing more happens. -/
theorem Accounts.step {c : Conduct} (h : s.Accounts x n fits) (keeps : s.engine.Keeps x n fits)
    (keeps' : s'.engine.Keeps x n fits) (step : c.Step s s') :
  s'.Accounts x n fits
  := by
  obtain ⟨held, underway, stacked, accounted⟩ := h.account
  cases step with
  | drift _ clock frames emitter =>
    constructor
    · exact ⟨held, underway, stacked, accounted.quiet (.of_same rfl rfl rfl)⟩
    · exact h.answers
  | start _ op may =>
    exact .proceed stacked h.answers (op.ensures_accounted stacked.le accounted) keeps'
  | reply e p waiting finished answer may =>
    cases stacked with
    | cons more others goesOn =>
      exact .proceed others h.answers (goesOn answer e keeps accounted) keeps'

/-- The account of a session in which the registrations of the identity stay. -/
theorem Accounts.of_keeping {c : Conduct} {settings : Settings} {clock : Instant}
    (keeping : c.Keeping x (.idle (.new settings clock)) s) (keeps : s.engine.Keeps x n fits) :
  s.Accounts x n fits
  := by
  induction keeping with
  | refl =>
    constructor
    · refine ⟨0, 0, .nil, .new settings clock, .inr ⟨trivial, .unborn, rfl, ?_⟩⟩
      exact ⟨rfl, rfl, rfl, rfl, rfl⟩
    · intro answered mem
      cases mem
  | tail before step ih =>
    have keeps₁ := keeps.before (Conduct.Keeping.run before) (.single step)
    exact (ih keeps₁).step keeps₁ keeps step.step

/-- One patch at most is inserted, and one success is announced. -/
theorem Accounts.le_one (h : s.Accounts x n fits) (keeps : s.engine.Keeps x n fits) :
  s.engine.patches x ≤ 1 ∧ s.engine.applications x ≤ 1
  := by
  obtain ⟨held, underway, stacked, accounted⟩ := h.account
  have few := stacked.le
  rcases accounted.tally with lost | ⟨-, stage, -, allows⟩
  · exact absurd lost keeps.not_lost
  · cases stage with
    | unborn =>
      obtain ⟨-, -, -, patches, applications⟩ := allows
      omega
    | applying =>
      obtain ⟨one, patches, applications⟩ := allows
      omega
    | live =>
      obtain ⟨-, -, -, patches, applications⟩ := allows
      omega

end Session

/-! ### What becomes of an install -/

/-- What becomes of an install of `i` on an engine `e`, which goes on with an answer and an engine.
The registry `g` comes later. -/
inductive Lands (e : Engine) (i : Instrument) (g : Registry)
    (goesOn : Except InstrumentError Instrument → Engine → Prop) : Prop where
  /-- The identity is registered, and nothing happens. -/
  | coalesced (r : Registration) (found : e.registry.get? i.id = some r) (e' : Engine)
      (same : e'.view = e.view) (rest : goesOn (.ok r.instrument) e')
  /-- The identity is not registered, and the condition cannot be read. -/
  | refused (err : InstrumentError) (free : e.registry.get? i.id = none)
      (invalid : Candidate.ofInstrument i = .error err) (e' : Engine)
      (registry : e'.registry = e.registry) (rest : goesOn (.error err) e')
  /-- The instrument is registered, and stays. -/
  | registered (free : e.registry.get? i.id = none) (stays : g.Registers i.id i)

namespace Session

variable {op : Operation} {waiting : List Pending} {finished : List ((op : Operation) × op.Result)}
  {f : Except InstrumentError Instrument → Routine op.Result} {e : Engine} {i : Instrument}

/-- An install whose condition can be read registers its instrument. -/
theorem registers_install {candidate : Candidate} (free : e.registry.get? i.id = none)
    (valid : Candidate.ofInstrument i = .ok candidate) :
  (proceed op waiting finished (Lifecycle.install i >>= f) e).engine.registry.Registers i.id i
  := by
  obtain rfl := Candidate.instrument_of valid
  have reserved : e.registry.reserve candidate
      = (.fresh (.ofCandidate e.registry.nextSerial candidate),
          (e.registry.reserve candidate).2) := by
    simp [Registry.reserve, free]
  have registry : (proceed op waiting finished (Lifecycle.install candidate.instrument >>= f)
      e).engine.registry = (e.registry.reserve candidate).2 := by
    rw [Lifecycle.install, proceed_gets, free]
    dsimp only
    rw [valid, proceed_update, reserved]
    rfl
  refine ⟨.ofCandidate e.registry.nextSerial candidate, ?_, rfl⟩
  rw [registry, Registry.get?_reserve reserved]
  apply if_pos rfl

end Session

/-- In every run in which no registration of an identity leaves the registry, operations running
inside each other to any depth, a patch for the identity is asked for once at most, and one success
is announced at most. All installs of it, those of commands included, are answered with the
instrument that is registered, which is the same all along, unless their condition cannot be read.
An install that finds the identity registered is answered at once, and one that does not is refused
for its condition or registers its own instrument, which stays. -/
theorem installs_coalesce (c : Conduct) (settings : Settings) (clock : Instant) (x : InstrumentId)
    (s : Session) (keeping : c.Keeping x (.idle (.new settings clock)) s) :
  s.engine.patches x ≤ 1 ∧ s.engine.applications x ≤ 1
    ∧ (∀ answered ∈ s.finished,
        answered.1.Answers (Instrument.Coalesces (s.engine.registry.Registers x) x) answered.2)
    ∧ (∀ s₀ i, c.Keeping x (.idle (.new settings clock)) s₀ → c.Keeping x s₀ s
        → s₀.engine.registry.Registers x i → s.engine.registry.Registers x i)
    ∧ ∀ op waiting finished i (f : _ → Routine (Operation.Result op)) e, i.id = x
      → c.Keeping x (.idle (.new settings clock))
          (.proceed op waiting finished (Lifecycle.install i >>= f) e)
      → c.Keeping x (.proceed op waiting finished (Lifecycle.install i >>= f) e) s
      → Lands e i s.engine.registry fun answer e' =>
          Session.proceed op waiting finished (Lifecycle.install i >>= f) e
            = Session.proceed op waiting finished (f answer) e'
  := by
  obtain ⟨n, keeps⟩ := s.engine.keeps_registered x
  have accounts := Session.Accounts.of_keeping keeping keeps
  have same (s₀ : Session) (i : Instrument) (before : c.Keeping x (.idle (.new settings clock)) s₀)
      (after : c.Keeping x s₀ s) (registers : s₀.engine.registry.Registers x i) :
      s.engine.registry.Registers x i := by
    obtain ⟨r, found, rfl⟩ := registers
    exact ((keeps.before before.run after).only found).2
  refine ⟨(accounts.le_one keeps).1, (accounts.le_one keeps).2, accounts.answers, same, ?_⟩
  rintro op waiting finished i f e rfl before after
  cases registered : e.registry.get? i.id with
  | some r =>
    apply Lands.coalesced r registered _ _ (Session.proceed_install_coalesced registered)
    simp
  | none =>
    cases valid : Candidate.ofInstrument i with
    | error err =>
      apply Lands.refused err registered valid _ _ (Session.proceed_install_refused registered valid)
      exact (Engine.Alike.publish _ _ _).registry
    | ok candidate =>
      apply Lands.registered registered
      apply same _ i before after (Session.registers_install registered valid)

/-- A duplicate install that runs inside the first one. The unit is patched once, and both installs
are answered with the instrument of the first. -/
theorem installs_coalesce_nested :
  ∃ s, Conduct.reentrant.Keeping "a" (.idle (.new .default default)) s
    ∧ s.engine.patches "a" = 1 ∧ s.engine.applications "a" = 1
    ∧ s.engine.registry.Registers "a" (.breakpointIn "U") ∧ s.finished.length = 2
    ∧ ∀ answered ∈ s.finished,
      answered.1.Answers (Instrument.Coalesces (s.engine.registry.Registers "a") "a") answered.2
  := by
  let s₀ := Session.idle (.new .default default)
  let s₁ := s₀.act (.start (.install (.breakpointIn "U")))
  let s₂ := s₁.act (.start (.install (.breakpointIn "V")))
  let s₃ := s₂.act (.reply true)
  let s₄ := s₃.act (.reply true)
  have starts : Conduct.reentrant.Keeping "a" s₀ s₁ := by
    have allowed : Conduct.reentrant.Allows s₀ (.start (.install (.breakpointIn "U"))) := nofun
    exact allowed.keeping (.inl rfl)
  have duplicate : Conduct.reentrant.Keeping "a" s₁ s₂ := by
    have allowed : Conduct.reentrant.Allows s₁ (.start (.install (.breakpointIn "V"))) := nofun
    exact allowed.keeping (.inr (by decide +kernel))
  have resolved : Conduct.reentrant.Keeping "a" s₂ s₃ := by
    have allowed : Conduct.reentrant.Allows s₂ (.reply true) := trivial
    exact allowed.keeping (.inr (by decide +kernel))
  have patched : Conduct.reentrant.Keeping "a" s₃ s₄ := by
    have allowed : Conduct.reentrant.Allows s₃ (.reply true) := trivial
    exact allowed.keeping (.inr (by decide +kernel))
  have keeping := starts.trans (duplicate.trans (resolved.trans patched))
  obtain ⟨few, few', answers, same, -⟩ :=
    installs_coalesce .reentrant .default default "a" s₄ keeping
  have registers := same s₁ (.breakpointIn "U") starts
    (duplicate.trans (resolved.trans patched)) ⟨_, rfl, rfl⟩
  have patches : s₄.engine.patches "a" = 1 := by decide +kernel
  have applications : s₄.engine.applications "a" = 1 := by decide +kernel
  have finished : s₄.finished.length = 2 := by decide +kernel
  exact ⟨s₄, keeping, patches, applications, registers, finished, answers⟩

/-- A breakpoint with a condition that cannot be read. -/
def Instrument.unreadable : Instrument := { breakpointIn "U" with condition := some ")" }

/-- An install that cannot be read and comes before the first one that can is not answered with the
instrument of that one. -/
theorem not_coalesced_refused :
  ¬∀ s, Conduct.reentrant.Keeping "a" (.idle (.new .default default)) s
    → ∀ answered ∈ s.finished, answered.1.Answers
      (fun i answer => i.id = "a" → ∃ j, s.engine.registry.Registers "a" j ∧ answer = .ok j)
      answered.2
  := by
  intro all
  let s₀ := Session.idle (.new .default default)
  let s₁ := s₀.act (.start (.install .unreadable))
  let s₂ := s₁.act (.start (.install (.breakpointIn "U")))
  have refused : Conduct.reentrant.Keeping "a" s₀ s₁ := by
    have allowed : Conduct.reentrant.Allows s₀ (.start (.install .unreadable)) := nofun
    exact allowed.keeping (.inl rfl)
  have registered : Conduct.reentrant.Keeping "a" s₁ s₂ := by
    have allowed : Conduct.reentrant.Allows s₁ (.start (.install (.breakpointIn "U"))) := nofun
    exact allowed.keeping (.inl rfl)
  obtain ⟨err, finished⟩ : ∃ err, s₂.finished = [⟨.install .unreadable, .error err⟩] := ⟨_, rfl⟩
  have answers := all s₂ (refused.trans registered)
  rw [finished] at answers
  obtain ⟨j, -, answered⟩ := answers _ (List.mem_singleton_self _) rfl
  cases answered

end Instrumentation
