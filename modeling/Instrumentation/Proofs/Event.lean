import Instrumentation.Event
import Instrumentation.Proofs.Instant.Rfc3339
import Instrumentation.Proofs.Instrument.Wire

/-!
# Events read back

The record of an event is read back as that event. It tells its kind by a tag, which the reader takes
first, and it holds an instrument with the time of its expiry in milliseconds next to the time of the
event as text. Both times must be such as can be written so, and any raw command is kept.
-/

namespace Instrumentation

open Decoder

namespace Event

variable {e : Event} {k : String} {v : Json}

/-! ### Records -/

/-- The tag of an event. -/
def tag : Event → Tag
  | applied _ _ => .applied
  | removed _ _ _ => .removed
  | commandFailed _ _ _ => .commandFailed

/-- The members of a record but for its tag and its time. -/
def content : Event → List (String × Json)
  | applied i _ => [("instrument", i.toJson)]
  | removed i cause _ =>
    ("instrument", i.toJson) :: Instrument.optionalMember "cause" (cause.map .string)
  | commandFailed command cause _ => [("command", command), ("cause", .string cause)]

/-- The text of a tag. -/
def Tag.name : Tag → String
  | applied => "applied"
  | removed => "removed"
  | commandFailed => "commandFailed"

/-- The members of a record. -/
def members (e : Event) : List (String × Json) :=
  ("event", .string e.tag.name)
    :: (e.content ++ [("occurredAt", .string (Instant.Rfc3339.format e.occurredAt))])

/-- An event is written as its members. -/
theorem toJson_eq (e : Event) :
  e.toJson = Json.ofMembers e.members
  := by cases e <;> rfl

/-- A tag is read back. -/
theorem Tag.decode_name (tag : Tag) :
  decode (.string tag.name) = .ok tag
  := by cases tag <;> rfl

/-- No two members of a record have one key. -/
theorem distinct_members (e : Event) :
  (e.members.map Prod.fst).Nodup
  := by
  cases e with
  | applied i t =>
    change ["event", "instrument", "occurredAt"].Nodup
    decide
  | removed i cause t =>
    cases cause with
    | none =>
      change ["event", "instrument", "occurredAt"].Nodup
      decide
    | some s =>
      change ["event", "instrument", "cause", "occurredAt"].Nodup
      decide
  | commandFailed command cause t =>
    change ["event", "command", "cause", "occurredAt"].Nodup
    decide

/-- The tag leads to the reader of its record. -/
theorem decode_toJson_eq (e : Event) :
  decode e.toJson
    = record .heldBack e.tag.shape e.tag.problem e.tag.build (Json.ofMembers e.members)
  := by
  rw [toJson_eq]
  exact bind_of_ok (Fields.required_ofList e.distinct_members rfl e.tag.decode_name)

/-! ### Events read back -/

/-- The times of an event can be written: the expiry of its instrument is a whole number of
milliseconds, and a clock can show when it occurred. -/
structure Writable (e : Event) : Prop where
  /-- The expiry of the instrument, if there is one. -/
  expires : ∀ i, e.instrument? = some i → i.ExpiresWhole
  /-- The time of the event. -/
  occurred : Instant.Rfc3339.OnClock e.occurredAt

/-- The members of a record pass their checks if its times can be written. -/
theorem problem_members (writable : e.Writable) (fs : Fields) (mem : (k, v) ∈ e.members) :
  e.tag.problem fs k v = .ok ()
  := by
  have time := passes_of_read (Instant.Rfc3339.decode_format_iff.mpr writable.occurred)
  cases e with
  | applied i t =>
    have instrument := (i.decode_toJson_iff .heldBack).mpr (writable.expires i rfl)
    simp only [members, content, List.cons_append, List.nil_append, List.mem_cons, Prod.mk.injEq,
      List.not_mem_nil, or_false] at mem
    rcases mem with ⟨rfl, rfl⟩ | ⟨rfl, rfl⟩ | ⟨rfl, rfl⟩
    · rfl
    · exact passes_of_read instrument
    · exact time
  | removed i cause t =>
    have instrument := (i.decode_toJson_iff .heldBack).mpr (writable.expires i rfl)
    simp only [members, content, List.cons_append, List.mem_append, Instrument.mem_optionalMember,
      Option.map_eq_some_iff, List.mem_cons, Prod.mk.injEq, List.not_mem_nil, or_false] at mem
    rcases mem with ⟨rfl, rfl⟩ | ⟨rfl, rfl⟩ | ⟨rfl, s, -, rfl⟩ | ⟨rfl, rfl⟩
    · rfl
    · exact passes_of_read instrument
    · exact passes_of_read ((optional_eq_ok_iff (string_ne_null s)).mpr (text_string s))
    · exact time
  | commandFailed command cause t =>
    simp only [members, content, List.cons_append, List.nil_append, List.mem_cons, Prod.mk.injEq,
      List.not_mem_nil, or_false] at mem
    rcases mem with ⟨rfl, rfl⟩ | ⟨rfl, rfl⟩ | ⟨rfl, rfl⟩ | ⟨rfl, rfl⟩
    · rfl
    · rfl
    · exact passes_of_read (text_string cause)
    · exact time

/-- The time is found among the members of a record. -/
theorem required_occurredAt (e : Event) :
  (Fields.ofMembers (.ofList e.members)).required "occurredAt" Instant.Rfc3339.decode
    = Instant.Rfc3339.decode (.string (Instant.Rfc3339.format e.occurredAt))
  := by
  apply Fields.required_ofList_eq e.distinct_members
  cases e with
  | removed i cause t => cases cause <;> rfl
  | _ => rfl

/-- The instrument is found among the members of a record. -/
theorem required_instrument {i : Instrument} (has : e.instrument? = some i) :
  (Fields.ofMembers (.ofList e.members)).required "instrument" (Instrument.decode .heldBack)
    = Instrument.decode .heldBack i.toJson
  := by
  apply Fields.required_ofList_eq e.distinct_members
  cases e with
  | commandFailed command cause t => cases has
  | _ =>
    obtain rfl := Option.some.inj has
    rfl

/-- The cause of a removal is found among the members of its record, or left out with it. -/
theorem orElse_cause (i : Instrument) (cause : Option String) (t : Instant) :
  (Fields.ofMembers (.ofList (removed i cause t).members)).orElse "cause" (optional text) none
    = .ok cause
  := by
  apply Fields.orElse_optional Json.string (removed i cause t).distinct_members
  · cases cause <;> rfl
  · exact string_ne_null
  · exact fun s _ => text_string s

/-- An event is built from the members of its record if its times can be written. -/
theorem build_members (writable : e.Writable) :
  e.tag.build (.ofMembers (.ofList e.members)) = .ok e
  := by
  have time := e.required_occurredAt.trans
    (Instant.Rfc3339.decode_format_iff.mpr writable.occurred)
  have instrument (i : Instrument) (has : e.instrument? = some i) :=
    (required_instrument has).trans
      ((i.decode_toJson_iff .heldBack).mpr (writable.expires i has))
  cases e with
  | applied i t =>
    apply bind_eq_ok.mpr
    use i, instrument i rfl
    apply bind_eq_ok.mpr
    use t, time
    rfl
  | removed i cause t =>
    apply bind_eq_ok.mpr
    use i, instrument i rfl
    apply bind_eq_ok.mpr
    use cause, orElse_cause i cause t
    apply bind_eq_ok.mpr
    use t, time
    rfl
  | commandFailed command cause t =>
    have distinct := (commandFailed command cause t).distinct_members
    apply bind_eq_ok.mpr
    use command, Fields.required_ofList distinct rfl rfl
    apply bind_eq_ok.mpr
    use cause, Fields.required_ofList distinct rfl (text_string cause)
    apply bind_eq_ok.mpr
    use t, time
    rfl

/-- An event that is built from the members of its record has times that can be written. -/
theorem writable_of_build (built : e.tag.build (.ofMembers (.ofList e.members)) = .ok e) :
  e.Writable
  := by
  have time (read : (Fields.ofMembers (.ofList e.members)).required "occurredAt"
      Instant.Rfc3339.decode = .ok e.occurredAt) : Instant.Rfc3339.OnClock e.occurredAt :=
    Instant.Rfc3339.decode_format_iff.mp (e.required_occurredAt.symm.trans read)
  have instrument (i : Instrument) (has : e.instrument? = some i)
      (read : (Fields.ofMembers (.ofList e.members)).required "instrument"
        (Instrument.decode .heldBack) = .ok i) : i.ExpiresWhole :=
    (i.decode_toJson_iff .heldBack).mp ((required_instrument has).symm.trans read)
  cases e with
  | applied i t =>
    obtain ⟨i', given, built⟩ := bind_eq_ok.mp built
    obtain ⟨t', occurred, built⟩ := bind_eq_ok.mp built
    obtain ⟨rfl, rfl⟩ := Event.applied.inj (Except.ok.inj built)
    constructor
    · rintro _ ⟨⟩
      exact instrument i' rfl given
    · exact time occurred
  | removed i cause t =>
    obtain ⟨i', given, built⟩ := bind_eq_ok.mp built
    obtain ⟨cause', -, built⟩ := bind_eq_ok.mp built
    obtain ⟨t', occurred, built⟩ := bind_eq_ok.mp built
    obtain ⟨rfl, rfl, rfl⟩ := Event.removed.inj (Except.ok.inj built)
    constructor
    · rintro _ ⟨⟩
      exact instrument i' rfl given
    · exact time occurred
  | commandFailed command cause t =>
    obtain ⟨command', -, built⟩ := bind_eq_ok.mp built
    obtain ⟨cause', -, built⟩ := bind_eq_ok.mp built
    obtain ⟨t', occurred, built⟩ := bind_eq_ok.mp built
    obtain ⟨rfl, rfl, rfl⟩ := Event.commandFailed.inj (Except.ok.inj built)
    constructor
    · rintro _ ⟨⟩
    · exact time occurred

end Event

/-- The record of any event is read back as that event, with any raw command, just if the expiry of
its instrument is a whole number of milliseconds and a clock can show when it occurred. -/
theorem records_read_back (e : Event) :
  Event.decode e.toJson = .ok e ↔ e.Writable
  := by
  rw [e.decode_toJson_eq]
  constructor
  · intro read
    obtain ⟨-, -, built⟩ := bind_eq_ok.mp read
    exact Event.writable_of_build built
  · intro writable
    apply record_ofMembers
    · exact fun _ _ => Event.problem_members writable _
    · exact Event.build_members writable

end Instrumentation
