import Instrumentation.Proofs.Stride.Sessions

/-!
# Failing installs

An install that fails takes its identity out of the registry, drops the deferred install of that
identity and clears its frame. It looks the identity up again, so that what it takes out is
whatever is registered under it by then. Other identities are left alone in any case. Hence an
install that fails spares all other registrations unless another one has taken over its identity.
-/

namespace Instrumentation

/-- All registrations but the one of a number stay registered, with their deferred installs and
their frames. -/
structure Engine.SparesOthers (e' e : Engine) (n : Nat) : Prop where
  /-- They stay registered, applying or live as before. -/
  registered : ∀ {x s}, e.registry.get? x = some s → s.serial ≠ n → e'.registry.get? x = some s
  /-- Their deferred installs stay scheduled. -/
  pending : ∀ {x s}, e.registry.applying.get? x = some s → s.serial ≠ n
    → e'.retries.pending.get? x = e.retries.pending.get? x
  /-- Their frames stay. -/
  frames : ∀ {x s}, e.registry.get? x = some s → s.serial ≠ n
    → e'.frames.frames.get? x = e.frames.frames.get? x

/-- An engine that forsakes an identity spares all others if nobody else has it. -/
theorem Engine.Forsakes.sparesOthers {e e' : Engine} {x : InstrumentId} {n : Nat}
    (h : e.Forsakes x e') (w : e.registry.WellKept) (w' : e'.registry.WellKept)
    (own : ∀ s, e.registry.get? x = some s → s.serial = n) :
  e'.SparesOthers e n
  := by
  have elsewhere {y s} (found : e.registry.get? y = some s) (other : s.serial ≠ n) : y ≠ x := by
    rintro rfl
    apply other (own s found)
  constructor
  · intro y s found other
    have apart := elsewhere found other
    rcases Registry.get?_eq_some_iff.mp found with live | ⟨-, applying⟩
    · apply Registry.get?_of_live (h.live apart live)
    · apply w'.get?_of_applying (h.applying apart applying)
  · intro y s applying other
    apply h.pending (elsewhere (w.get?_of_applying applying) other) applying
  · intro y s found other
    apply h.frames (elsewhere found other)

/-- An engine that forsakes an identity takes out who is registered under it. -/
theorem Engine.Forsakes.not_registered {e e' : Engine} {x : InstrumentId} {s : Registration}
    (h : e.Forsakes x e') (w : e.registry.WellKept) (found : e.registry.get? x = some s) :
  e'.registry.get? x ≠ some s
  := by
  intro still
  have old := w.serial_lt found
  have new := h.fresh still
  omega

/-- An install that fails spares all other registrations, their deferred installs and their frames.
This is exact: it does only if no other registration has its identity by then. -/
theorem failure_spares_others_iff {c : Conduct} {settings : Settings} {clock : Instant} {e : Engine}
    {p : Pending} {waiting : List Pending} {finished : List ((op : Operation) × op.Result)}
    (run : c.Run (.idle (.new settings clock)) { engine := e, waiting := p :: waiting, finished })
    {answer : p.call.request.Answer} (fails : p.call.Fails e.retries answer) :
  (Session.proceed p.op waiting finished (p.resume answer) e).engine.SparesOthers e
      p.call.registration.serial
    ↔ ∀ s, e.registry.get? p.call.registration.id = some s → s.serial = p.call.registration.serial
  := by
  have w : e.registry.WellKept := run.since.succeeds.sound.wellKept
  obtain ⟨g, next, -, stride, -⟩ := run.since.stride answer
  have forsakes := stride.forsakes ⟨⟨p.call, answer⟩, rfl, rfl, fails⟩
  constructor
  · intro spares s found
    by_contra other
    apply forsakes.not_registered w found
    apply spares.registered found other
  · intro own
    apply forsakes.sparesOthers w stride.sound.wellKept own

/-- The failure of an install spares another live instrument. -/
theorem failure_spares_others_iff_refused :
  ∃ e p waiting finished, Conduct.reentrant.Run (.idle (.new .default default))
      { engine := e, waiting := p :: waiting, finished }
    ∧ p.call.Fails e.retries (p.call.grant false)
    ∧ (∃ s, e.registry.live.get? "b" = some s ∧ s.serial ≠ p.call.registration.serial)
    ∧ (Session.proceed p.op waiting finished (p.resume (p.call.grant false)) e).engine.SparesOthers
        e p.call.registration.serial
  := by
  have asks : Conduct.reentrant.AllowsAll (.idle (.new .default default))
      [.start (.install (.new "b" { unit := "V", line := 1 } (.breakpoint none))), .reply true,
        .reply true, .start (.install (.breakpointIn "U")), .reply true] :=
    ⟨nofun, trivial, trivial, nofun, trivial, trivial⟩
  refine ⟨_, _, _, _, asks.run, ⟨_, rfl⟩, ⟨_, rfl, by decide⟩, ?_⟩
  apply (failure_spares_others_iff asks.run ⟨_, rfl⟩).mpr
  intro s found
  obtain rfl := Option.some.inj found
  rfl

/-- An instrument is removed and installed again while its patch is inserted, up to the answer to
that. -/
def reinstallWhileRefusing : List Action :=
  [.start (.install (.breakpointIn "U")), .reply true, .start (.removeById "a" none),
    .start (.install (.breakpointIn "U")), .reply true, .reply true]

/-- An install that fails can take out another registration. The second of two installs of an
identity makes its instrument live, and the first one, whose patch fails, takes that out. -/
theorem not_spares_others_reinstall :
  ¬∀ e p waiting finished answer, Conduct.reentrant.Run (.idle (.new .default default))
      { engine := e, waiting := p :: waiting, finished }
    → p.call.Fails e.retries answer
    → (Session.proceed p.op waiting finished (p.resume answer) e).engine.SparesOthers e
        p.call.registration.serial
  := by
  intro all
  have allowed : Conduct.reentrant.AllowsAll (.idle (.new .default default))
      reinstallWhileRefusing :=
    ⟨nofun, trivial, nofun, nofun, trivial, trivial, trivial⟩
  have spares := all _ _ _ _ (Call.grant false _) allowed.run ⟨_, rfl⟩
  have still := spares.registered (x := "a") rfl
  cases still (by decide)

end Instrumentation
