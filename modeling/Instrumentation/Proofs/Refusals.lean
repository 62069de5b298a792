import Instrumentation.Proofs.Departures
import Instrumentation.Proofs.Ensures.Operations

/-!
# What a refused command does

A command is refused if its text is not JSON, if it does not decode, or if it lists nothing to act
on. It decodes as a whole or not at all: one malformed item in a list of instruments or of
locations is enough to refuse it, wherever it stands. A refusal is answered and published, and
does nothing else.

A command that is accepted acts on its items one after another, and goes on after failures.
Nothing that acts on an item publishes that a command has failed. So this is published by the
command itself, last and once, if there are failures.
-/

namespace Instrumentation

/-! ### What is refused -/

/-- A list is read if each of its items is. -/
theorem Decoder.read_of_list {α : Type} {read : Decoder α} {items : List Json} {as : List α}
    (ok : list read (.array items) = .ok as) :
  ∀ item ∈ items, ∃ a, read item = .ok a
  := by
  rw [list] at ok
  induction items generalizing as with
  | nil =>
    intro item mem
    cases mem
  | cons first rest ih =>
    rw [List.mapM_cons] at ok
    obtain ⟨a, read, ok⟩ := bind_eq_ok.mp ok
    obtain ⟨others, ok, -⟩ := bind_eq_ok.mp ok
    intro item mem
    rcases List.mem_cons.mp mem with rfl | mem
    · exact ⟨a, read⟩
    · exact ih ok item mem

namespace Command

/-- The fields that a command gives, as members of an object or as items of an array. -/
def fields? : Json → Option Fields
  | .object ms => some (.ofMembers ms)
  | .array items => some (.ofItems shape items)
  | _ => none

variable {raw : Json} {fs : Fields} {c : Command}

/-- The lists of a command that decodes are read from its fields. -/
theorem lists_of_decode (decoded : decode raw = .ok c) (given : fields? raw = some fs) :
  fs.orElse "instruments" (Decoder.list (Instrument.decode .direct)) [] = .ok c.instruments
    ∧ fs.orElse "locations" (Decoder.list (Location.decode .direct)) [] = .ok c.locations
  := by
  have build (ok : (do
      let action ← fs.required "commandType" (Decoder.variant .direct Action.names)
      let instruments ← fs.orElse "instruments" (Decoder.list (Instrument.decode .direct)) []
      let locations ← fs.orElse "locations" (Decoder.list (Location.decode .direct)) []
      return { action, instruments, locations }) = Except.ok c) :
      fs.orElse "instruments" (Decoder.list (Instrument.decode .direct)) [] = .ok c.instruments
        ∧ fs.orElse "locations" (Decoder.list (Location.decode .direct)) [] = .ok c.locations := by
    obtain ⟨action, -, ok⟩ := bind_eq_ok.mp ok
    obtain ⟨instruments, listed, ok⟩ := bind_eq_ok.mp ok
    obtain ⟨locations, located, ok⟩ := bind_eq_ok.mp ok
    obtain rfl := Except.ok.inj ok
    exact ⟨listed, located⟩
  cases raw with
  | object ms =>
    obtain rfl := Option.some.inj given
    obtain ⟨-, -, ok⟩ := bind_eq_ok.mp decoded
    exact build ok
  | array items =>
    obtain rfl := Option.some.inj given
    obtain ⟨-, -, ok⟩ := bind_eq_ok.mp decoded
    obtain ⟨built, ok, rest⟩ := bind_eq_ok.mp ok
    apply build
    dsimp only at rest
    split at rest
    · cases rest
    · exact ok.trans rest
  | _ => cases given

/-- A malformed item of a list of a command. -/
inductive Malformed (fs : Fields) : Prop where
  /-- An instrument is malformed. -/
  | instrument (items : List Json) (item : Json) (err : DecodeError)
      (listed : fs.get? "instruments" = some (.array items)) (mem : item ∈ items)
      (fails : Instrument.decode .direct item = .error err)
  /-- A location is malformed. -/
  | location (items : List Json) (item : Json) (err : DecodeError)
      (listed : fs.get? "locations" = some (.array items)) (mem : item ∈ items)
      (fails : Location.decode .direct item = .error err)

/-- A command with a malformed item does not decode. -/
theorem decode_of_malformed (given : fields? raw = some fs) (malformed : Malformed fs) :
  ∃ err, decode raw = .error err
  := by
  cases decoded : decode raw with
  | error err => exact ⟨err, rfl⟩
  | ok c =>
    obtain ⟨instruments, locations⟩ := lists_of_decode decoded given
    cases malformed with
    | instrument items item err listed mem fails =>
      rw [Fields.orElse, listed] at instruments
      obtain ⟨i, read⟩ := Decoder.read_of_list instruments item mem
      rw [fails] at read
      cases read
    | location items item err listed mem fails =>
      rw [Fields.orElse, listed] at locations
      obtain ⟨l, read⟩ := Decoder.read_of_list locations item mem
      rw [fails] at read
      cases read

/-- A text is refused as a command, which is shown in some way, for some cause. -/
inductive Refused (text : String) : Json → String → Prop where
  /-- The text is not JSON, and is shown as it is. -/
  | unread (unparsed : Json.parse? text = none) :
      Refused text (.string text) DecodeError.malformed.message
  /-- The value does not decode. -/
  | undecoded (raw : Json) (err : DecodeError) (parsed : Json.parse? text = some raw)
      (fails : decode raw = .error err) : Refused text raw err.message
  /-- The command lists nothing to act on. -/
  | empty (raw : Json) (c : Command) (parsed : Json.parse? text = some raw)
      (decoded : decode raw = .ok c) (nothing : c.isEmpty = true) :
      Refused text raw "command lists no instruments or locations"

/-- What is not refused is a command that lists something. -/
theorem accepted {text : String} (accepts : ¬∃ raw cause, Refused text raw cause) :
  ∃ raw c, Json.parse? text = some raw ∧ decode raw = .ok c ∧ c.isEmpty = false
  := by
  cases parsed : Json.parse? text with
  | none => exact absurd ⟨_, _, .unread parsed⟩ accepts
  | some raw =>
    cases decoded : decode raw with
    | error err => exact absurd ⟨_, _, .undecoded raw err parsed decoded⟩ accepts
    | ok c =>
      cases nothing : c.isEmpty with
      | true => exact absurd ⟨_, _, .empty raw c parsed decoded nothing⟩ accepts
      | false => exact ⟨raw, c, rfl, decoded, nothing⟩

end Command

/-! ### What complains -/

/-- The entry is that a command has failed. -/
def Entry.IsComplaint : Entry → Prop
  | published _ (.commandFailed _ _ _) => True
  | _ => False

/-- The time is the same, and the history goes on without a complaint. -/
structure Engine.Continues (e' e : Engine) : Prop where
  /-- The time is the same. -/
  clock : e'.clock = e.clock
  /-- The history goes on. -/
  adds : ∃ entries, e'.history = e.history ++ entries ∧ ∀ entry ∈ entries, ¬entry.IsComplaint

namespace Engine.Continues

variable {e e' e'' : Engine}

/-- Some entries that are no complaints. -/
theorem of_notes {entries : List Entry} (noted : e'.Notes e entries)
    (content : ∀ entry ∈ entries, ¬entry.IsComplaint) :
  e'.Continues e
  := ⟨noted.clock, entries, noted.history, content⟩

/-- Nothing happens. -/
protected theorem refl (e : Engine) :
  e.Continues e
  := .of_notes (.refl e) (by simp)

/-- One thing after another. -/
protected theorem trans (h : e''.Continues e') (h' : e'.Continues e) :
  e''.Continues e
  := by
  obtain ⟨later, history, content⟩ := h.adds
  obtain ⟨entries, history', content'⟩ := h'.adds
  use h.clock.trans h'.clock, entries ++ later
  constructor
  · rw [history, history', List.append_assoc]
  · intro entry mem
    rcases List.mem_append.mp mem with mem | mem
    · exact content' entry mem
    · exact content entry mem

end Engine.Continues

namespace Routine

variable {α β : Type}

/-- The routine does not complain, whatever its calls are answered. -/
def Content (r : Routine α) : Prop := ∀ e, r.Always (fun _ e' => e'.Continues e) e

namespace Content

variable {r : Routine α} {f : α → Routine β}

/-- Two routines, one after the other. -/
protected theorem bind (h : r.Content) (next : ∀ a, (f a).Content) :
  (r >>= f).Content
  := by
  intro e
  apply Always.bind
  apply (h e).weaken
  intro a e₁ continues
  apply (next a e₁).weaken
  intro b e₂ continues'
  exact continues'.trans continues

/-- The end. -/
protected theorem pure (a : α) :
  (pure a : Routine α).Content
  := fun e => .refl e

/-- A look at the engine. -/
protected theorem gets (f : Engine → α) :
  (gets f).Content
  := fun e => .refl e

/-- A change of the engine with a result, which is not noted. -/
protected theorem update {f : Engine → α × Engine} (clock : ∀ e, (f e).2.clock = e.clock)
    (journal : ∀ e, (f e).2.journal = e.journal) :
  (update f).Content
  := by
  intro e
  have same : (f e).2.history = e.history := by rw [Engine.history, Engine.history, journal]
  exact ⟨clock e, [], by rw [same, List.append_nil], by simp⟩

/-- A change of the engine that is not noted. -/
protected theorem modify {f : Engine → Engine} (clock : ∀ e, (f e).clock = e.clock)
    (journal : ∀ e, (f e).journal = e.journal) :
  (modify f).Content
  := Content.update (f := fun e => ((), f e)) clock journal

/-- A record in the log. -/
protected theorem log (level : Level) (message : String) (fields : List (String × String)) :
  (log level message fields).Content
  := by
  intro e
  apply always_log
  intro e₁ logged
  exact .of_notes logged (by simp)

/-- An event that is no complaint. -/
protected theorem publish {serial : Option Nat} {event : Instant → Event}
    (content : ∀ t, ¬(Entry.published serial (event t)).IsComplaint) :
  (publish serial event).Content
  := by
  intro e
  apply always_publish
  intro e₁ published
  exact .of_notes published (by simpa using content e.clock)

/-- A call. -/
protected theorem request (call : Call) :
  (request call).Content
  := by
  intro e
  apply always_request
  intro answer e₁ asked
  apply Engine.Continues.of_notes asked
  simp [Entry.IsComplaint]

end Content

end Routine

namespace Lifecycle

open Routine

/-- A failing install. -/
theorem content_failInstall (r : Registration) (err : InstrumentError) :
  (failInstall r err).Content
  := by
  refine Content.bind (.modify (fun _ => rfl) fun _ => rfl) fun _ => ?_
  apply (Content.log _ _ _).bind
  intro _
  apply (Content.update (fun _ => rfl) fun _ => rfl).bind
  intro detached
  cases detached with
  | none => exact .pure err
  | some s =>
    refine Content.bind (.modify (fun _ => rfl) fun _ => rfl) fun _ => ?_
    refine Content.bind (.publish fun _ => not_false) fun _ => ?_
    exact .pure err

/-- An install whose unit is not loaded. -/
theorem content_deferInstall (r : Registration) (now : Instant) :
  (deferInstall r now).Content
  := by
  rw [deferInstall]
  dsimp only
  split
  · apply (content_failInstall r _).bind
    intro err
    exact .pure _
  · apply (Content.update (fun _ => rfl) fun _ => rfl).bind
    intro decision
    cases decision with
    | scheduled dueAt attempts =>
      apply (Content.log _ _ _).bind
      intro _
      exact .pure _
    | exhausted attempts =>
      apply (content_failInstall r _).bind
      intro err
      exact .pure _

/-- An install whose patch is in place. -/
theorem content_confirmInstall (r : Registration) :
  (confirmInstall r).Content
  := by
  refine Content.bind (.modify (fun _ => rfl) fun _ => rfl) fun _ => ?_
  apply (Content.update (fun _ => rfl) fun _ => rfl).bind
  intro promoted
  cases promoted with
  | some s =>
    apply (Content.log _ _ _).bind
    intro _
    exact .publish fun _ => not_false
  | none =>
    apply (Content.log _ _ _).bind
    intro _
    apply (Content.request (.restore r)).bind
    intro answer
    cases answer with
    | ok _ => exact .pure ()
    | error err => exact .log _ _ _

/-- An attempt to install. -/
theorem content_apply (r : Registration) (now : Instant) :
  (apply r now).Content
  := by
  apply (Content.request (.resolve r)).bind
  intro loaded
  cases loaded with
  | false => exact content_deferInstall r now
  | true =>
    apply (Content.request (.patch r)).bind
    intro answer
    cases answer with
    | ok _ =>
      apply (content_confirmInstall r).bind
      intro _
      exact .pure _
    | error source =>
      apply (content_failInstall r _).bind
      intro err
      apply (Content.request (.restore r)).bind
      intro answer
      cases answer with
      | ok _ => exact .pure _
      | error secondary =>
        apply (Content.log _ _ _).bind
        intro _
        exact .pure _

/-- An install. -/
theorem content_install (i : Instrument) :
  (install i).Content
  := by
  apply (Content.gets _).bind
  intro registered
  cases registered with
  | some r =>
    apply (Content.log _ _ _).bind
    intro _
    exact .pure _
  | none =>
    cases Candidate.ofInstrument i with
    | error err =>
      apply (Content.log _ _ _).bind
      intro _
      refine Content.bind (.publish fun _ => not_false) fun _ => ?_
      exact .pure _
    | ok candidate =>
      apply (Content.update (fun _ => rfl) fun _ => rfl).bind
      intro reservation
      cases reservation with
      | existing r =>
        apply (Content.log _ _ _).bind
        intro _
        exact .pure _
      | fresh r =>
        apply (Content.gets _).bind
        intro now
        apply (content_apply r now).bind
        intro answer
        cases answer with
        | ok _ => exact .pure _
        | error err => exact .pure _

/-- A patch that is taken back. -/
theorem content_reverseLive (r : Registration) (cause : Option String) :
  (reverseLive r cause).Content
  := by
  rw [reverseLive]
  split
  · apply (Content.request (.withdraw r)).bind
    intro answer
    cases answer with
    | ok _ => exact .pure _
    | error source =>
      apply (Content.log _ _ _).bind
      intro _
      exact .pure _
  · exact .pure _

/-- The removal of an identity. -/
theorem content_removeById (x : InstrumentId) (cause : Option String) :
  (removeById x cause).Content
  := by
  apply (Content.update (fun _ => rfl) fun _ => rfl).bind
  intro detached
  cases detached with
  | none => exact .pure none
  | some r =>
    refine Content.bind (.modify (fun _ => rfl) fun _ => rfl) fun _ => ?_
    rw [if_pos rfl]
    refine Content.bind (.modify (fun _ => rfl) fun _ => rfl) fun _ => ?_
    apply (content_reverseLive r cause).bind
    intro cause
    apply (Content.log _ _ _).bind
    intro _
    refine Content.bind (.publish fun _ => not_false) fun _ => ?_
    exact .pure _

/-- The removal of identities. -/
theorem content_removeEach (ids : List InstrumentId) :
  (removeEach ids).Content
  := by
  induction ids with
  | nil => exact .pure []
  | cons x ids ih =>
    apply (content_removeById x none).bind
    intro removed
    apply ih.bind
    intro others
    exact .pure _

/-- A removal by identity or by location. -/
theorem content_remove (query : Location) (id : Option InstrumentId) :
  (remove query id).Content
  := by
  cases id with
  | some x =>
    apply (content_removeById x none).bind
    intro removed
    exact .pure _
  | none =>
    apply (Content.gets _).bind
    intro found
    exact content_removeEach _

end Lifecycle

namespace Control

open Routine

/-- The installs of a command. -/
theorem content_add (instruments : List Instrument) :
  (add instruments).Content
  := by
  induction instruments with
  | nil => exact .pure _
  | cons i rest ih =>
    apply (Lifecycle.content_install i).bind
    intro answer
    apply ih.bind
    intro o
    cases answer with
    | ok installed => exact .pure _
    | error err => exact .pure _

/-- The removals of listed instruments. -/
theorem content_removeListed (instruments : List Instrument) :
  (removeListed instruments).Content
  := by
  induction instruments with
  | nil => exact .pure []
  | cons i rest ih =>
    apply (Lifecycle.content_remove i.location (some i.id)).bind
    intro removed
    apply ih.bind
    intro others
    exact .pure _

/-- The removals at listed locations. -/
theorem content_removeAt (locations : List Location) :
  (removeAt locations).Content
  := by
  induction locations with
  | nil => exact .pure []
  | cons l rest ih =>
    apply (Lifecycle.content_remove l none).bind
    intro removed
    apply ih.bind
    intro others
    exact .pure _

/-- A command that was read. -/
theorem content_perform (c : Command) :
  (perform c).Content
  := by
  apply (Content.log _ _ _).bind
  intro _
  cases c.action with
  | add => exact content_add c.instruments
  | remove =>
    apply (content_removeListed c.instruments).bind
    intro listed
    apply (content_removeAt c.locations).bind
    intro located
    exact .pure _

end Control

/-! ### Commands given as texts -/

/-- What the installs of instruments are answered when they run one after another. -/
def Engine.installEach (respond : Responder) (e : Engine) :
    List Instrument → List (Except InstrumentError Instrument)
  | [] => []
  | i :: rest =>
    (e.conclude respond (.install i)).1
      :: (e.conclude respond (.install i)).2.installEach respond rest

/-- The complaint of a command, which joins its failures. -/
def Outcome.complaint (o : Outcome) (raw : Json) (t : Instant) : List Entry :=
  if o.isSuccess then []
  else [.published none
    (.commandFailed raw ("; ".intercalate (o.errors.map InstrumentError.message)) t)]

namespace Control

open Routine

variable {raw : Json} {c : Command} {e : Engine}

/-- A text that is refused as a command is answered and published, and nothing else happens. -/
theorem always_handleText_of_refused {text cause : String}
    (refused : Command.Refused text raw cause) :
  (handleText text).Always
    (fun answer e' => answer = .error (.invalidCommand cause)
      ∧ e'.Notes e [.published none (.commandFailed raw cause e.clock)]) e
  := by
  have answers {raw : Json} {cause : String} : (do
      return .error (← reject raw cause) : Routine (Except InstrumentError Outcome)).Always
        (fun answer e' => answer = .error (.invalidCommand cause)
          ∧ e'.Notes e [.published none (.commandFailed raw cause e.clock)]) e := by
    apply Always.bind
    apply (always_reject raw cause).weaken
    rintro _ e₁ ⟨rfl, noted⟩
    exact ⟨rfl, noted⟩
  rw [handleText]
  cases refused with
  | unread unparsed =>
    rw [unparsed]
    exact answers
  | undecoded raw err parsed fails =>
    rw [parsed]
    dsimp only
    rw [handle, fails]
    exact answers
  | empty raw c parsed decoded nothing =>
    rw [parsed]
    exact always_handle_of_empty decoded nothing

/-- A command that is accepted is answered with its outcome. It complains once and last if it has
failures, and not otherwise. -/
theorem always_handle_of_accepted (decoded : Command.decode raw = .ok c)
    (filled : c.isEmpty = false) :
  (handle raw).Always
    (fun answer e' => ∃ o entries, answer = .ok o ∧ (∀ entry ∈ entries, ¬entry.IsComplaint)
      ∧ e'.history = e.history ++ entries ++ o.complaint raw e.clock) e
  := by
  rw [handle, decoded]
  dsimp only
  rw [if_neg (by simp [filled])]
  apply Always.bind
  apply (content_perform c e).weaken
  intro o e₁ continues
  obtain ⟨entries, history, content⟩ := continues.adds
  cases succeeds : o.isSuccess with
  | true =>
    rw [if_neg (by simp)]
    refine ⟨o, entries, rfl, content, ?_⟩
    rw [history, Outcome.complaint, if_pos succeeds, List.append_nil]
  | false =>
    rw [if_pos (by simp)]
    apply Always.bind
    apply always_publish
    intro e₂ published
    refine ⟨o, entries, rfl, content, ?_⟩
    rw [published.history, history, continues.clock, Outcome.complaint, if_neg (by simp [succeeds])]

/-- A command that is accepted is answered with the outcome of what it does. -/
theorem runBy_handle_of_accepted (respond : Responder) (e : Engine)
    (decoded : Command.decode raw = .ok c) (filled : c.isEmpty = false) :
  ((handle raw).runBy respond e).1 = .ok ((perform c).runBy respond e).1
  := by
  rw [handle, decoded]
  dsimp only
  rw [if_neg (by simp [filled]), runBy_bind]
  split
  · rw [runBy_bind]
    rfl
  · rfl

/-- The outcome of installs is what each of them is answered after the ones before. -/
theorem runBy_add (respond : Responder) (e : Engine) (instruments : List Instrument) :
  ((add instruments).runBy respond e).1
    = { affected := (e.installEach respond instruments).filterMap Except.toOption
        errors := (e.installEach respond instruments).filterMap Outcome.failure? }
  := by
  induction instruments generalizing e with
  | nil => rfl
  | cons i rest ih =>
    have concluded : e.conclude respond (.install i) = (Lifecycle.install i).runBy respond e := rfl
    rw [add, runBy_bind, runBy_bind, Engine.installEach, concluded, ih]
    cases ((Lifecycle.install i).runBy respond e).1 with
    | ok installed => rfl
    | error err => rfl

/-- The outcome of removals has no failures. -/
theorem runBy_remove (respond : Responder) (e : Engine) (instruments : List Instrument)
    (locations : List Location) :
  ((remove instruments locations).runBy respond e).1.errors = []
  := by
  rw [remove, runBy_bind, runBy_bind]
  rfl

/-- The failures of a command are those of its installs, one after another, and removals have
none. -/
theorem runBy_perform_errors (respond : Responder) (e : Engine) (c : Command) :
  (c.action = .add → ∃ e₁ : Engine, e₁.Notes e [] ∧ ((perform c).runBy respond e).1.errors
      = (e₁.installEach respond c.instruments).filterMap Outcome.failure?)
    ∧ (c.action = .remove → ((perform c).runBy respond e).1.errors = [])
  := by
  rw [perform, runBy_bind]
  constructor
  · intro adds
    rw [adds]
    exact ⟨_, .log e _ _ _, congrArg Outcome.errors (runBy_add respond _ c.instruments)⟩
  · intro removes
    rw [removes]
    exact runBy_remove respond _ c.instruments c.locations

end Control

/-- On every engine, and however the transform engine answers, a text that is refused as a command
is answered and published with its cause, and does nothing else: nothing is asked, and what is
registered, deferred and captured stays as it is. It is refused if one item of its lists is
malformed, wherever it stands. Every other text is answered with an outcome. If some installs
fail, one after another, then a complaint is published, last and once, which joins the failures in
their order, and otherwise none is. -/
theorem refused_command_does_nothing (e : Engine) (text : String) (respond : Responder) :
  (∀ raw cause, Command.Refused text raw cause
      → (e.conclude respond (.handleText text)).1 = .error (.invalidCommand cause)
        ∧ (e.conclude respond (.handleText text)).2.Notes e
          [.published none (.commandFailed raw cause e.clock)])
    ∧ (∀ raw fs, Json.parse? text = some raw → Command.fields? raw = some fs
      → Command.Malformed fs → ∃ cause, Command.Refused text raw cause)
    ∧ ((¬∃ raw cause, Command.Refused text raw cause)
      → ∃ raw c o entries, Json.parse? text = some raw ∧ Command.decode raw = .ok c
        ∧ (e.conclude respond (.handleText text)).1 = .ok o
        ∧ (c.action = .add → ∃ e₁ : Engine, e₁.Notes e []
          ∧ o.errors = (e₁.installEach respond c.instruments).filterMap Outcome.failure?)
        ∧ (c.action = .remove → o.errors = [])
        ∧ (∀ entry ∈ entries, ¬entry.IsComplaint)
        ∧ (e.conclude respond (.handleText text)).2.history
          = e.history ++ entries ++ o.complaint raw e.clock)
  := by
  refine ⟨?_, ?_, ?_⟩
  · intro raw cause refused
    exact (Control.always_handleText_of_refused refused).runBy respond
  · intro raw fs parsed given malformed
    obtain ⟨err, fails⟩ := Command.decode_of_malformed given malformed
    exact ⟨_, .undecoded raw err parsed fails⟩
  · intro accepts
    obtain ⟨raw, c, parsed, decoded, filled⟩ := Command.accepted accepts
    have handles :
        e.conclude respond (.handleText text) = (Control.handle raw).runBy respond e := by
      change (Control.handleText text).runBy respond e = _
      rw [Control.handleText, parsed]
    obtain ⟨o, entries, answered, content, history⟩ :=
      (Control.always_handle_of_accepted decoded filled).runBy respond
    have outcome := Control.runBy_handle_of_accepted respond e decoded filled
    obtain rfl := Except.ok.inj (answered.symm.trans outcome)
    obtain ⟨adds, removes⟩ := Control.runBy_perform_errors respond e c
    refine ⟨raw, c, _, entries, parsed, decoded, ?_, adds, removes, content, ?_⟩
    · rw [handles]
      exact answered
    · rw [handles]
      exact history

/-- Two locations to remove from, the last of which has no line. -/
def Command.lastMalformed : String := "[\"REMOVE_LIVE_INSTRUMENT\",[],[[\"U\",1],[\"V\"]]]"

/-- Two instruments to install. -/
def Command.addTwo : String :=
  "[\"ADD_LIVE_INSTRUMENT\",[\x7b\"id\":\"a\",\"location\":[\"U\",1],\"type\":\"BREAKPOINT\"\x7d,"
    ++ "\x7b\"id\":\"b\",\"location\":[\"V\",1],\"type\":\"BREAKPOINT\"\x7d]]"

/-- A command with a malformed location after a good one is refused. A command of two installs whose
patches are refused is accepted, and complains of both. -/
theorem refused_command_does_nothing_unlike_accepted :
  (∃ raw, ((Engine.new .default default).conclude (.steady Request.answerRefusing)
          (.handleText Command.lastMalformed)).1
        = .error (.invalidCommand "invalid length 1, expected struct LocationKey with 2 elements")
      ∧ ((Engine.new .default default).conclude (.steady Request.answerRefusing)
          (.handleText Command.lastMalformed)).2.Notes (Engine.new .default default)
        [.published none (.commandFailed raw
          "invalid length 1, expected struct LocationKey with 2 elements" default)])
    ∧ ∃ raw o entries,
      ((Engine.new .default default).conclude (.steady Request.answerRefusing)
          (.handleText Command.addTwo)).1 = .ok o
        ∧ o.errors
          = [.patchFailed "a" (.internal "refused"), .patchFailed "b" (.internal "refused")]
        ∧ (∀ entry ∈ entries, ¬entry.IsComplaint)
        ∧ ((Engine.new .default default).conclude (.steady Request.answerRefusing)
            (.handleText Command.addTwo)).2.history
          = entries ++ [.published none (.commandFailed raw
            "patch failed for instrument a: refused; patch failed for instrument b: refused"
            default)]
  := by
  constructor
  · obtain ⟨refuses, -, accepts⟩ := refused_command_does_nothing (.new .default default)
      Command.lastMalformed (.steady Request.answerRefusing)
    have answered : (match ((Engine.new .default default).conclude (.steady Request.answerRefusing)
        (.handleText Command.lastMalformed)).1 with
      | .ok _ => none
      | .error err => some err) = some (InstrumentError.invalidCommand
        "invalid length 1, expected struct LocationKey with 2 elements") := by decide +kernel
    by_cases refused : ∃ raw cause, Command.Refused Command.lastMalformed raw cause
    · obtain ⟨raw, cause, refused⟩ := refused
      obtain ⟨rejected, noted⟩ := refuses raw cause refused
      rw [rejected] at answered
      obtain rfl := InstrumentError.invalidCommand.inj (Option.some.inj answered)
      exact ⟨raw, rejected, noted⟩
    · obtain ⟨raw, c, o, entries, -, -, ok, -⟩ := accepts refused
      rw [ok] at answered
      cases answered
  · obtain ⟨refuses, -, accepts⟩ := refused_command_does_nothing (.new .default default)
      Command.addTwo (.steady Request.answerRefusing)
    have answered : ((Engine.new .default default).conclude (.steady Request.answerRefusing)
        (.handleText Command.addTwo)).1.toOption.map Outcome.errors
      = some [.patchFailed "a" (.internal "refused"), .patchFailed "b" (.internal "refused")] := by
      decide +kernel
    have accepted : ¬∃ raw cause, Command.Refused Command.addTwo raw cause := by
      rintro ⟨raw, cause, refused⟩
      rw [(refuses raw cause refused).1] at answered
      cases answered
    obtain ⟨raw, c, o, entries, -, -, ok, -, -, content, history⟩ := accepts accepted
    rw [ok] at answered
    have errors : o.errors = _ := Option.some.inj answered
    refine ⟨raw, o, entries, ok, errors, content, ?_⟩
    rw [history, Outcome.complaint, Outcome.isSuccess, errors]
    rfl

end Instrumentation
