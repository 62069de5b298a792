import Instrumentation.Proofs.Stride.Sessions

/-!
# What removals spare

A sweep and a removal by location collect what they remove when they start, and then remove one
identity after another, with a call between them during which others may run. Whatever was
registered when they started, and is not what they are meant to remove, they spare to their end.
So does every other operation, except for the identity of an install that fails.

What is registered under a collected identity in the meantime is not spared: it is removed in its
turn, whether the operation is meant for it or not.
-/

namespace Instrumentation

/-- Whatever was registered when an operation started, and is not what it is meant to remove, is
spared up to its first call and from each answer to the next call. An operation that installs
spares it unless an install has just failed. -/
theorem spares_unless_meant {c : Conduct} {settings : Settings} {clock : Instant} {s₀ : Session}
    (run₀ : c.Run (.idle (.new settings clock)) s₀) :
  (∀ op x r, s₀.engine.registry.get? x = some r → ¬op.aim.removes r.instrument
      → (s₀.start op).engine.registry.Has x r.serial)
    ∧ ∀ e p waiting finished answer, c.Run s₀ { engine := e, waiting := p :: waiting, finished }
      → s₀.waiting.length ≤ waiting.length
      → (p.op.aim.installs → ¬p.call.Fails e.retries answer)
      → ∀ x r, s₀.engine.registry.get? x = some r → ¬p.op.aim.removes r.instrument
        → e.registry.Has x r.serial
        → (Session.proceed p.op waiting finished (p.resume answer) e).engine.registry.Has x r.serial
  := by
  constructor
  · intro op x r found spared
    have sound := run₀.since.succeeds.sound
    have strides := op.strides sound.wellKept sound (.refl _)
    have unfailing (s : Registration) : ¬Origin.Fails ⟨none, s₀.engine⟩ s :=
      (Origin.removes_start _).not_fails
    obtain ⟨next, stride, -⟩ := Session.proceed_strides s₀.waiting s₀.finished strides
    apply stride.spares unfailing found spared ⟨r, found, rfl⟩
  · intro e p waiting finished answer run since failing x r found spared has
    obtain ⟨g, next, may, stride, started, -⟩ := (run₀.since_later run).stride answer
    obtain rfl := started since
    apply stride.spares _ found spared has
    -- only an operation that installs waits for an attempt, and only attempts fail
    rcases may with withdrawal | installs
    · intro s
      apply Origin.Removes.not_fails
      intro reply replied
      obtain rfl := Option.some.inj replied
      exact withdrawal
    · rintro s ⟨reply, replied, -, fails⟩
      obtain rfl := Option.some.inj replied
      apply failing installs fails

namespace Instrument

/-- A breakpoint that does not expire. -/
def lasting (id unit : String) : Instrument := .new id { unit, line := 1 } (.breakpoint none)

/-- A breakpoint that expires at the start of the clock. -/
def expiring (id unit : String) : Instrument := { lasting id unit with expiresAt := some default }

end Instrument

/-- Two instruments are installed, one of which expires. -/
def installBoth : List Action :=
  [.start (.install (.expiring "a" "U")), .reply true, .reply true,
    .start (.install (.lasting "b" "V")), .reply true, .reply true]

/-- A sweep spares an instrument that has not expired when it starts, and when the patch of another
one is taken back. -/
theorem spares_unless_meant_sweep :
  ∃ s₀ e p finished r, Conduct.reentrant.Run (.idle (.new .default default)) s₀
    ∧ Conduct.reentrant.Run s₀ { engine := e, waiting := [p], finished }
    ∧ p.op.aim = (Operation.sweep default).aim
    ∧ s₀.engine.registry.get? "b" = some r ∧ ¬p.op.aim.removes r.instrument
    ∧ (s₀.start (.sweep default)).engine.registry.Has "b" r.serial
    ∧ (Session.proceed p.op [] finished (p.resume (p.call.grant true)) e).engine.registry.Has "b"
        r.serial
  := by
  have installed : Conduct.reentrant.AllowsAll (.idle (.new .default default)) installBoth :=
    ⟨nofun, trivial, trivial, nofun, trivial, trivial, trivial⟩
  have sweeps : Conduct.reentrant.AllowsAll
      ((Session.idle (.new .default default)).play installBoth) [.start (.sweep default)] :=
    ⟨nofun, trivial⟩
  obtain ⟨starts, replies⟩ := spares_unless_meant installed.run
  have started := starts (.sweep default) "b" _ rfl nofun
  have replied := replies _ _ _ _ (Call.grant true _) sweeps.run (Nat.zero_le _) nofun "b" _ rfl
    nofun started
  exact ⟨_, _, _, _, _, installed.run, sweeps.run, rfl, rfl, nofun, started, replied⟩

/-- An instrument that a sweep has still to visit is removed, and installed again without expiry. -/
def reinstallWhileSweeping : List Action :=
  [.start (.install (.expiring "a" "U")), .reply true, .reply true,
    .start (.install (.expiring "b" "V")), .reply true, .reply true,
    .start (.sweep default), .start (.removeById "b" none), .reply true,
    .start (.install (.lasting "b" "V")), .reply true, .reply true]

/-- A sweep can remove an instrument that has not expired. It visits an identity that it has
collected, and takes out what is registered under it by then. -/
theorem not_spared_reinstall :
  ¬∀ e p waiting finished answer, Conduct.reentrant.Run (.idle (.new .default default))
      { engine := e, waiting := p :: waiting, finished }
    → ¬p.op.aim.installs
    → ∀ x r, e.registry.get? x = some r → ¬p.op.aim.removes r.instrument
      → (Session.proceed p.op waiting finished (p.resume answer) e).engine.registry.Has x r.serial
  := by
  intro all
  have allowed : Conduct.reentrant.AllowsAll (.idle (.new .default default))
      reinstallWhileSweeping :=
    ⟨nofun, trivial, trivial, nofun, trivial, trivial, nofun, nofun, trivial, nofun, trivial,
      trivial, trivial⟩
  have spared := all _ _ _ _ (Call.grant true _) allowed.run (fun installs => installs) "b" _ rfl
    nofun
  obtain ⟨r, found, -⟩ := spared
  cases found

end Instrumentation
