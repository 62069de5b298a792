import Instrumentation.Command
import Instrumentation.Proofs.Json.Decode

/-!
# Instruments and commands read back

What is written on the wire is read back as it was. An instrument shares one object with its payload,
so none of its own members may have the key of a member of the payload. Its expiry is written in whole
milliseconds, and is read back just if it is such a time.
-/

namespace Instrumentation

open Decoder

/-! ### Times in milliseconds -/

namespace Instant

/-- The instant lies a whole number of milliseconds from the start of 1970. No instant within a leap
second does, since the milliseconds on both sides of it follow each other. -/
def IsWholeMillis (t : Instant) : Prop := ∃ z, ofMillis? z = some t

/-- The milliseconds of an instant lead to it if any number of milliseconds does. -/
theorem isWholeMillis_iff {t : Instant} :
  t.IsWholeMillis ↔ ofMillis? t.millis = some t
  := by
  constructor
  · rintro ⟨z, named⟩
    rw [ofMillis?, ofParts?] at named
    split at named
    next inside =>
      obtain rfl := Option.some.inj named
      have same : z / 1000 * 1000 + (((z % 1000).toNat * 1000000 : Nat) : Int) / 1000000 = z := by
        omega
      rw [millis]
      dsimp only
      rw [same, ofMillis?, ofParts?, dif_pos inside]
    next => cases named
  · intro named
    exact ⟨_, named⟩

/-- The instants at whole milliseconds have no part of another millisecond, and are not within a leap
second. -/
theorem isWholeMillis_iff_nanos {t : Instant} :
  t.IsWholeMillis ↔ t.nanos % 1000000 = 0 ∧ t.nanos < 1000000000
  := by
  obtain ⟨seconds, nanos, begins, ends, bound⟩ := t
  rw [isWholeMillis_iff, ofMillis?, ofParts?, millis]
  dsimp only
  constructor
  · intro named
    split at named
    next inside =>
      have same := congrArg Instant.nanos (Option.some.inj named)
      dsimp only at same
      omega
    next => cases named
  · rintro ⟨whole, ordinary⟩
    have parts : (seconds * 1000 + (nanos : Int) / 1000000) / 1000 = seconds
        ∧ ((seconds * 1000 + (nanos : Int) / 1000000) % 1000).toNat * 1000000 = nanos := by
      omega
    simp only [parts, begins, ends, bound, and_self, dif_pos]

/-- The milliseconds of an instant fit a number. -/
theorem ofInt?_millis (t : Instant) :
  ∃ n : Integer, n.val = t.millis ∧ t.toMillisJson = .number (.integer n)
  := by
  have least := t.le_seconds
  have greatest := t.seconds_lt
  have fraction := t.nanos_lt
  have inside : -9223372036854775808 ≤ t.millis ∧ t.millis < 18446744073709551616 := by
    rw [millis]
    omega
  use ⟨t.millis, inside.1, inside.2⟩, rfl
  rw [toMillisJson, Json.ofInt, Integer.ofInt?, dif_pos inside]

/-- An instant in milliseconds is not null. -/
theorem toMillisJson_ne_null (t : Instant) :
  t.toMillisJson ≠ .null
  := by
  obtain ⟨n, -, written⟩ := t.ofInt?_millis
  rw [written]
  nofun

/-- An instant in milliseconds is read back just if it is a whole number of them. -/
theorem decodeMillis_toMillisJson_iff {t : Instant} :
  decodeMillis t.toMillisJson = .ok t ↔ t.IsWholeMillis
  := by
  obtain ⟨n, val, written⟩ := t.ofInt?_millis
  rw [isWholeMillis_iff, written, decodeMillis, val]
  cases ofMillis? t.millis with
  | none => simp
  | some t' => simp

end Instant

/-! ### Names -/

/-- The name of a rate window. -/
theorem Step.decode_wireName (passage : Passage) (step : Step) :
  Decoder.variant passage names (.string step.wireName) = .ok step
  := by cases step <;> rfl

/-- The name of a meter type. -/
theorem MeterType.decode_wireName (passage : Passage) (type : MeterType) :
  Decoder.variant passage names (.string type.wireName) = .ok type
  := by cases type <;> rfl

/-- The name of a sample type. -/
theorem SampleType.decode_wireName (passage : Passage) (type : SampleType) :
  Decoder.variant passage names (.string type.wireName) = .ok type
  := by cases type <;> rfl

/-- The name of a kind. -/
theorem Payload.decodeKind_wireName (passage : Passage) (kind : Kind) :
  decodeKind passage (.string kind.wireName) = .ok kind
  := by cases kind <;> rfl

/-- The name of an action. -/
theorem Command.Action.decode_wireName (passage : Passage) (action : Action) :
  Decoder.variant passage names (.string action.wireName) = .ok action
  := by cases action <;> rfl

/-! ### The parts of an instrument -/

/-- A location. -/
theorem Location.decode_toJson (passage : Passage) (l : Location) :
  decode passage l.toJson = .ok l
  := by
  have distinct : ([("unit", Json.string l.unit), ("line", Json.ofUInt32 l.line)].map
      Prod.fst).Nodup := by simp
  apply record_ofMembers
  · intro k v mem
    simp only [List.mem_cons, Prod.mk.injEq, List.not_mem_nil, or_false] at mem
    rcases mem with ⟨rfl, rfl⟩ | ⟨rfl, rfl⟩
    · rw [problem, Fields.get?_ofList distinct]
      exact passes_of_read rfl
    · exact passes_of_read (uint32_ofUInt32 _)
  · rw [Fields.get?_ofList distinct]
    apply bind_eq_ok.mpr
    use l.unit, Fields.required_ofList distinct rfl rfl
    apply bind_eq_ok.mpr
    use l.line, Fields.required_ofList distinct rfl (uint32_ofUInt32 _)
    rfl

/-- A rate. -/
theorem Rate.decode_toJson (passage : Passage) (r : Rate) :
  decode passage r.toJson = .ok r
  := by
  have distinct : ([("limit", Json.ofUInt32 r.limit), ("step", .string r.step.wireName)].map
      Prod.fst).Nodup := by simp
  rw [decode]
  apply record_ofMembers
  · intro k v mem
    simp only [List.mem_cons, Prod.mk.injEq, List.not_mem_nil, or_false] at mem
    rcases mem with ⟨rfl, rfl⟩ | ⟨rfl, rfl⟩
    · exact passes_of_read (uint32_ofUInt32 _)
    · exact passes_of_read (Step.decode_wireName passage _)
  · apply bind_eq_ok.mpr
    use r.limit, Fields.required_ofList distinct rfl (uint32_ofUInt32 _)
    apply bind_eq_ok.mpr
    use r.step, Fields.required_ofList distinct rfl (Step.decode_wireName passage _)
    rfl

/-- The source of a sample. -/
theorem Sample.decode_toJson (passage : Passage) (s : Sample) :
  decode passage s.toJson = .ok s
  := by
  have distinct : ([("valueType", Json.string s.type.wireName), ("value", .string s.text)].map
      Prod.fst).Nodup := by simp
  rw [decode]
  apply record_ofMembers
  · intro k v mem
    simp only [List.mem_cons, Prod.mk.injEq, List.not_mem_nil, or_false] at mem
    rcases mem with ⟨rfl, rfl⟩ | ⟨rfl, rfl⟩
    · exact passes_of_read (SampleType.decode_wireName passage _)
    · exact passes_of_read (text_string _)
  · apply bind_eq_ok.mpr
    use s.type, Fields.required_ofList distinct rfl (SampleType.decode_wireName passage _)
    apply bind_eq_ok.mpr
    use s.text, Fields.required_ofList distinct rfl rfl
    rfl

/-! ### Payloads -/

namespace Payload

/-- The keys of all payloads. -/
def keys : List String :=
  ["type", "maxObjectDepth", "logFormat", "logArguments", "meterName", "meterType", "metricValue"]

/-- A payload is written under keys of payloads, each once. -/
theorem sublist_keys (p : Payload) :
  (p.members.map Prod.fst).Sublist keys
  := by
  cases p with
  | breakpoint depth =>
    cases depth with
    | none => change ["type"].Sublist keys; decide
    | some n => change ["type", "maxObjectDepth"].Sublist keys; decide
  | log format arguments => change ["type", "logFormat", "logArguments"].Sublist keys; decide
  | meter name type sample =>
    change ["type", "meterName", "meterType", "metricValue"].Sublist keys
    decide

/-- The check of a field in a payload of a kind. -/
def problem (passage : Passage) (kind : Kind) (field : String) : Decoder Unit :=
  match kind, field with
  | .breakpoint, "maxObjectDepth" => passes (optional uint32)
  | .log, "logFormat" => passes text
  | .log, "logArguments" => passes (list text)
  | .meter, "meterName" => passes text
  | .meter, "meterType" => passes (variant passage MeterType.names)
  | .meter, "metricValue" => passes (Sample.decode passage)
  | _, _ => fun _ => .ok ()

/-- The payload of a kind that given fields make up. -/
def build (passage : Passage) (kind : Kind) (fs : Fields) : Except DecodeError Payload :=
  match kind with
  | .breakpoint => return breakpoint (← fs.orElse "maxObjectDepth" (optional uint32) none)
  | .log =>
    return log (← fs.required "logFormat" text) (← fs.orElse "logArguments" (list text) [])
  | .meter =>
    return meter (← fs.required "meterName" text)
      (← fs.required "meterType" (variant passage MeterType.names))
      (← fs.required "metricValue" (Sample.decode passage))

/-- The fields of a payload are a record. -/
theorem decodeFields_eq (passage : Passage) (kind : Kind) :
  decodeFields passage kind = record passage (shape kind) (fun _ => problem passage kind)
    (build passage kind)
  := rfl

/-- The arguments of a log. -/
theorem list_text (arguments : List String) :
  list text (.array (arguments.map .string)) = .ok arguments
  := list_eq_ok_iff.mpr fun s _ => text_string s

/-- The members of a payload pass the checks of its kind. -/
theorem problem_members (passage : Passage) (p : Payload) {k : String} {v : Json}
    (mem : (k, v) ∈ p.members) :
  problem passage p.kind k v = .ok ()
  := by
  cases p with
  | breakpoint depth =>
    cases depth with
    | none =>
      simp only [members, List.mem_cons, List.not_mem_nil, or_false, Prod.mk.injEq] at mem
      obtain ⟨rfl, rfl⟩ := mem
      rfl
    | some n =>
      simp only [members, List.mem_cons, List.not_mem_nil, or_false, Prod.mk.injEq] at mem
      rcases mem with ⟨rfl, rfl⟩ | ⟨rfl, rfl⟩
      · rfl
      · exact passes_of_read ((optional_eq_ok_iff (ofUInt32_ne_null n)).mpr (uint32_ofUInt32 n))
  | log format arguments =>
    simp only [members, List.mem_cons, List.not_mem_nil, or_false, Prod.mk.injEq] at mem
    rcases mem with ⟨rfl, rfl⟩ | ⟨rfl, rfl⟩ | ⟨rfl, rfl⟩
    · rfl
    · exact passes_of_read (text_string format)
    · exact passes_of_read (list_text arguments)
  | meter name type sample =>
    simp only [members, List.mem_cons, List.not_mem_nil, or_false, Prod.mk.injEq] at mem
    rcases mem with ⟨rfl, rfl⟩ | ⟨rfl, rfl⟩ | ⟨rfl, rfl⟩ | ⟨rfl, rfl⟩
    · rfl
    · exact passes_of_read (text_string name)
    · exact passes_of_read (type.decode_wireName passage)
    · exact passes_of_read (sample.decode_toJson passage)

/-- What no payload has passes the checks of any kind. -/
theorem problem_foreign (passage : Passage) (kind : Kind) {k : String} (foreign : k ∉ keys)
    (v : Json) :
  problem passage kind k v = .ok ()
  := by
  simp only [keys, List.mem_cons, not_or] at foreign
  cases kind with
  | breakpoint => simp [problem, foreign]
  | log => simp [problem, foreign]
  | meter => simp [problem, foreign]

/-- A payload is built from members under whose keys its own are found. -/
theorem build_members (passage : Passage) (p : Payload) {ms : List (String × Json)}
    (distinct : (ms.map Prod.fst).Nodup) (found : ∀ k ∈ keys, ms.lookup k = p.members.lookup k) :
  build passage p.kind (.ofMembers (.ofList ms)) = .ok p
  := by
  cases p with
  | breakpoint depth =>
    have listed : ms.lookup "maxObjectDepth" = depth.map Json.ofUInt32 := by
      rw [found _ (by decide)]
      cases depth <;> rfl
    apply bind_eq_ok.mpr
    use depth, Fields.orElse_optional Json.ofUInt32 distinct listed ofUInt32_ne_null
      fun n _ => uint32_ofUInt32 n
    rfl
  | log format arguments =>
    apply bind_eq_ok.mpr
    use format, Fields.required_ofList distinct (found _ (by decide)) (text_string format)
    apply bind_eq_ok.mpr
    use arguments, Fields.orElse_ofList distinct (found _ (by decide)) (list_text arguments)
    rfl
  | meter name type sample =>
    apply bind_eq_ok.mpr
    use name, Fields.required_ofList distinct (found _ (by decide)) (text_string name)
    apply bind_eq_ok.mpr
    use type, Fields.required_ofList distinct (found _ (by decide)) (type.decode_wireName passage)
    apply bind_eq_ok.mpr
    use sample, Fields.required_ofList distinct (found _ (by decide)) (sample.decode_toJson passage)
    rfl

/-- A payload is read back from an object that has other members too. -/
theorem decodeAmong_members (p : Payload) {others : List (String × Json)}
    (distinct : ((others ++ p.members).map Prod.fst).Nodup)
    (foreign : ∀ k v, (k, v) ∈ others → k ∉ keys) :
  decodeAmong (.ofList (others ++ p.members)) = .ok p
  := by
  have found (k : String) (own : k ∈ keys) :
      (others ++ p.members).lookup k = p.members.lookup k := by
    have absent : others.lookup k = none := by
      apply List.lookup_eq_none_iff.mpr
      rintro ⟨j, v⟩ mem
      have ne : k ≠ j := fun eq => foreign j v mem (eq ▸ own)
      simpa using ne
    rw [List.lookup_append, absent, Option.none_or]
  rw [decodeAmong]
  apply bind_eq_ok.mpr
  use p.kind
  constructor
  · exact Fields.required_ofList distinct (found _ (by decide)) (decodeKind_wireName .heldBack p.kind)
  · rw [decodeFields_eq]
    apply record_ofMembers
    · intro k v mem
      rcases List.mem_append.mp mem with mem | mem
      · exact problem_foreign .heldBack p.kind (foreign k v mem) v
      · exact problem_members .heldBack p mem
    · exact build_members .heldBack p distinct found

end Payload

/-! ### Instruments -/

namespace Instrument

variable {i : Instrument} {k : String} {v : Json}

/-- The keys of an instrument, those of its payload excepted. -/
def keys : List String :=
  ["id", "location", "condition", "hitLimit", "expiresAt", "applyImmediately", "throttle", "meta"]

/-- The members of an instrument, those of its payload excepted. -/
def ownMembers (i : Instrument) : List (String × Json) :=
  [("id", .string i.id), ("location", i.location.toJson)]
    ++ optionalMember "condition" (i.condition.map .string)
    ++ optionalMember "hitLimit" (i.hitLimit.map Json.ofUInt32)
    ++ optionalMember "expiresAt" (i.expiresAt.map Instant.toMillisJson)
    ++ [("applyImmediately", .bool i.applyImmediately)]
    ++ optionalMember "throttle" (i.rate.map Rate.toJson)
    ++ (if i.metadata.isEmpty then [] else [("meta", .object i.metadata)])

/-- The members of the payload come last. -/
theorem members_eq (i : Instrument) :
  i.members = i.ownMembers ++ i.payload.members
  := rfl

/-- An optional member. -/
theorem mem_optionalMember {name : String} {o : Option Json} :
  (k, v) ∈ optionalMember name o ↔ k = name ∧ o = some v
  := by
  cases o with
  | none => simp [optionalMember]
  | some u => simp [optionalMember, eq_comm]

/-- What is found under the key of an optional member, or under another key. -/
theorem lookup_optionalMember (name : String) (o : Option Json) (k : String) :
  (optionalMember name o).lookup k = if k = name then o else none
  := by
  cases o with
  | none => simp [optionalMember]
  | some u =>
    by_cases own : k = name
    · simp [optionalMember, own]
    · have other : (k == name) = false := beq_false_of_ne own
      simp [optionalMember, List.lookup_cons, other, own]

/-- An optional member has one key at most. -/
theorem sublist_optionalMember (name : String) (o : Option Json) :
  ((optionalMember name o).map Prod.fst).Sublist [name]
  := by
  cases o with
  | none => apply List.nil_sublist
  | some u => apply List.Sublist.refl

/-- An instrument is written under keys of instruments, each once. -/
theorem sublist_keys (i : Instrument) :
  (i.ownMembers.map Prod.fst).Sublist keys
  := by
  have metadata : ((if i.metadata.isEmpty then [] else [("meta", Json.object i.metadata)]).map
      Prod.fst).Sublist ["meta"] := by
    split
    · apply List.nil_sublist
    · apply List.Sublist.refl
  simp only [ownMembers, List.map_append]
  have fixed : (["id", "location"] : List String).Sublist ["id", "location"] := .refl _
  have flag : (["applyImmediately"] : List String).Sublist ["applyImmediately"] := .refl _
  exact (((((fixed.append (sublist_optionalMember _ _)).append (sublist_optionalMember _ _)).append
    (sublist_optionalMember _ _)).append flag).append (sublist_optionalMember _ _)).append metadata

/-- No two members of an instrument have one key. -/
theorem distinct_members (i : Instrument) :
  (i.members.map Prod.fst).Nodup
  := by
  have apart : (keys ++ Payload.keys).Nodup := by decide
  have listed : (i.members.map Prod.fst).Sublist (keys ++ Payload.keys) := by
    rw [members_eq, List.map_append]
    exact i.sublist_keys.append i.payload.sublist_keys
  exact List.Nodup.sublist listed apart

/-- The expiry, if there is one, is a whole number of milliseconds. -/
def ExpiresWhole (i : Instrument) : Prop := ∀ t, i.expiresAt = some t → t.IsWholeMillis

/-- The members of an instrument pass their checks if its expiry does. -/
theorem problem_ownMembers (passage : Passage) (mem : (k, v) ∈ i.ownMembers)
    (whole : i.ExpiresWhole) :
  problem passage k v = .ok ()
  := by
  simp only [ownMembers, List.mem_append, mem_optionalMember, List.mem_cons, List.not_mem_nil,
    or_false, Prod.mk.injEq, Option.map_eq_some_iff] at mem
  rcases mem with ((((((⟨rfl, rfl⟩ | ⟨rfl, rfl⟩) | ⟨rfl, s, -, rfl⟩) | ⟨rfl, n, -, rfl⟩)
    | ⟨rfl, t, expires, rfl⟩) | ⟨rfl, rfl⟩) | ⟨rfl, r, -, rfl⟩) | mem
  · exact passes_of_read (text_string i.id)
  · exact passes_of_read (i.location.decode_toJson passage)
  · exact passes_of_read ((optional_eq_ok_iff (string_ne_null s)).mpr (text_string s))
  · exact passes_of_read ((optional_eq_ok_iff (ofUInt32_ne_null n)).mpr (uint32_ofUInt32 n))
  · exact passes_of_read ((optional_eq_ok_iff t.toMillisJson_ne_null).mpr
      (Instant.decodeMillis_toMillisJson_iff.mpr (whole t expires)))
  · exact passes_of_read (boolean_bool i.applyImmediately)
  · exact passes_of_read ((optional_eq_ok_iff (ofMembers_ne_null _)).mpr (r.decode_toJson passage))
  · split at mem
    · cases mem
    · simp only [List.mem_cons, List.not_mem_nil, or_false, Prod.mk.injEq] at mem
      obtain ⟨rfl, rfl⟩ := mem
      exact passes_of_read (members_object i.metadata)

/-- The members of the payload are not checked before the kind is known. -/
theorem problem_payload (passage : Passage) (foreign : k ∈ Payload.keys) :
  problem passage k v = .ok ()
  := by
  simp only [Payload.keys, List.mem_cons, List.not_mem_nil, or_false] at foreign
  rcases foreign with rfl | rfl | rfl | rfl | rfl | rfl | rfl
  all_goals rfl

/-- No member of an instrument's own has the key of a member of a payload. -/
theorem own_not_mem_payload (mem : (k, v) ∈ i.ownMembers) :
  k ∉ Payload.keys
  := by
  have apart : ∀ k ∈ keys, k ∉ Payload.keys := by decide
  apply apart
  apply i.sublist_keys.subset
  exact List.mem_map.mpr ⟨_, mem, rfl⟩

/-- What is found under the keys that may be left out. -/
theorem lookup_members (i : Instrument) :
  i.members.lookup "condition" = i.condition.map .string
    ∧ i.members.lookup "hitLimit" = i.hitLimit.map Json.ofUInt32
    ∧ i.members.lookup "expiresAt" = i.expiresAt.map Instant.toMillisJson
    ∧ i.members.lookup "applyImmediately" = some (.bool i.applyImmediately)
    ∧ i.members.lookup "throttle" = i.rate.map Rate.toJson
    ∧ i.members.lookup "meta" = if i.metadata.isEmpty then none else some (.object i.metadata)
  := by
  have payload {k : String} (own : k ∉ Payload.keys) : i.payload.members.lookup k = none := by
    apply List.lookup_eq_none_iff.mpr
    intro e mem
    have ne : k ≠ e.1 := fun eq => own (eq ▸ i.payload.sublist_keys.subset (List.mem_map_of_mem mem))
    simpa using ne
  have metadata (k : String) : (if i.metadata.isEmpty then []
      else [("meta", Json.object i.metadata)]).lookup k
        = if k = "meta" then if i.metadata.isEmpty then none else some (.object i.metadata)
          else none := by
    cases i.metadata.isEmpty with
    | true => simp
    | false => exact lookup_optionalMember "meta" (some (.object i.metadata)) k
  have own (k : String) (foreign : k ∉ Payload.keys) :
      i.members.lookup k = i.ownMembers.lookup k := by
    rw [members_eq, List.lookup_append, payload foreign, Option.or_none]
  rw [own "condition" (by decide), own "hitLimit" (by decide), own "expiresAt" (by decide),
    own "applyImmediately" (by decide), own "throttle" (by decide), own "meta" (by decide)]
  simp only [ownMembers, List.lookup_append, List.lookup_cons, List.lookup_nil,
    lookup_optionalMember, metadata]
  simp

/-- An instrument whose expiry is a whole number of milliseconds is read back. -/
theorem decode_of_whole (passage : Passage) (whole : i.ExpiresWhole) :
  decode passage i.toJson = .ok i
  := by
  have distinct := i.distinct_members
  have payload : Payload.decodeAmong (.ofList i.members) = .ok i.payload :=
    i.payload.decodeAmong_members distinct fun _ _ => own_not_mem_payload
  rw [toJson, Json.ofMembers, decode]
  apply bind_eq_ok.mpr
  use ()
  constructor
  · apply Fields.check_eq_ok_iff.mpr
    intro k v mem
    rcases List.mem_append.mp (Dict.mem_ofList mem) with mem | mem
    · exact problem_ownMembers passage mem whole
    · apply problem_payload passage
      apply i.payload.sublist_keys.subset
      exact List.mem_map.mpr ⟨_, mem, rfl⟩
  · apply bind_eq_ok.mpr
    use i.id, Fields.required_ofList distinct rfl (text_string i.id)
    apply bind_eq_ok.mpr
    use i.location, Fields.required_ofList distinct rfl (i.location.decode_toJson passage)
    apply bind_eq_ok.mpr
    obtain ⟨condition, hitLimit, expiresAt, applyImmediately, rate, metadata⟩ := i.lookup_members
    use i.condition, Fields.orElse_optional .string distinct condition string_ne_null
      fun s _ => text_string s
    apply bind_eq_ok.mpr
    use i.hitLimit, Fields.orElse_optional Json.ofUInt32 distinct hitLimit ofUInt32_ne_null
      fun n _ => uint32_ofUInt32 n
    apply bind_eq_ok.mpr
    use i.expiresAt, Fields.orElse_optional Instant.toMillisJson distinct expiresAt
      Instant.toMillisJson_ne_null
      fun t expires => Instant.decodeMillis_toMillisJson_iff.mpr (whole t expires)
    apply bind_eq_ok.mpr
    use i.applyImmediately,
      Fields.orElse_ofList distinct applyImmediately (boolean_bool i.applyImmediately)
    apply bind_eq_ok.mpr
    use i.rate, Fields.orElse_optional Rate.toJson distinct rate (fun _ => ofMembers_ne_null _)
      fun r _ => r.decode_toJson passage
    apply bind_eq_ok.mpr
    use i.metadata
    constructor
    · by_cases empty : i.metadata.isEmpty
      · rw [if_pos empty] at metadata
        rw [Fields.orElse_ofList_none distinct metadata, i.metadata.eq_empty empty]
      · rw [if_neg empty] at metadata
        exact Fields.orElse_ofList distinct metadata (members_object i.metadata)
    · apply bind_eq_ok.mpr
      use i.payload, payload
      rfl

/-- An instrument that is read back has an expiry that is. -/
theorem whole_of_decode {passage : Passage} (read : decode passage i.toJson = .ok i) :
  i.ExpiresWhole
  := by
  intro t expires
  rw [toJson, Json.ofMembers, decode] at read
  obtain ⟨-, -, read⟩ := bind_eq_ok.mp read
  obtain ⟨id, -, read⟩ := bind_eq_ok.mp read
  obtain ⟨location, -, read⟩ := bind_eq_ok.mp read
  obtain ⟨condition, -, read⟩ := bind_eq_ok.mp read
  obtain ⟨hitLimit, -, read⟩ := bind_eq_ok.mp read
  obtain ⟨expiry, expiryRead, read⟩ := bind_eq_ok.mp read
  obtain ⟨applyImmediately, -, read⟩ := bind_eq_ok.mp read
  obtain ⟨rate, -, read⟩ := bind_eq_ok.mp read
  obtain ⟨metadata, -, read⟩ := bind_eq_ok.mp read
  obtain ⟨payload, -, read⟩ := bind_eq_ok.mp read
  have same : expiry = some t := (congrArg expiresAt (Except.ok.inj read)).trans expires
  obtain ⟨-, -, listed, -⟩ := i.lookup_members
  rw [expires] at listed
  rw [Fields.orElse, Fields.get?_ofList i.distinct_members, listed, same] at expiryRead
  apply Instant.decodeMillis_toMillisJson_iff.mp
  exact (optional_eq_ok_iff t.toMillisJson_ne_null).mp expiryRead

/-- An instrument is read back just if its expiry is a whole number of milliseconds. -/
theorem decode_toJson_iff (passage : Passage) (i : Instrument) :
  decode passage i.toJson = .ok i ↔ i.ExpiresWhole
  := ⟨whole_of_decode, decode_of_whole passage⟩

end Instrument

/-! ### Commands -/

/-- A command is read back just if its instruments are. -/
theorem Command.decode_toJson_iff (c : Command) :
  decode c.toJson = .ok c ↔ ∀ i ∈ c.instruments, i.ExpiresWhole
  := by
  have distinct : ([("commandType", Json.string c.action.wireName),
      ("instruments", .array (c.instruments.map Instrument.toJson)),
      ("locations", .array (c.locations.map Location.toJson))].map Prod.fst).Nodup := by simp
  have locations : list (Location.decode .direct) (.array (c.locations.map Location.toJson))
      = .ok c.locations := list_eq_ok_iff.mpr fun l _ => l.decode_toJson .direct
  constructor
  · intro read i mem
    rw [decode, toJson, Json.ofMembers, record] at read
    obtain ⟨-, -, read⟩ := bind_eq_ok.mp read
    obtain ⟨action, -, read⟩ := bind_eq_ok.mp read
    obtain ⟨instruments, listed, read⟩ := bind_eq_ok.mp read
    obtain ⟨_, -, read⟩ := bind_eq_ok.mp read
    have same : instruments = c.instruments := congrArg Command.instruments (Except.ok.inj read)
    rw [Fields.orElse, Fields.get?_ofList distinct, same] at listed
    have each := list_eq_ok_iff.mp listed i mem
    exact (i.decode_toJson_iff .direct).mp each
  · intro whole
    have instruments : list (Instrument.decode .direct)
        (.array (c.instruments.map Instrument.toJson)) = .ok c.instruments :=
      list_eq_ok_iff.mpr fun i mem => (i.decode_toJson_iff .direct).mpr (whole i mem)
    apply record_ofMembers
    · intro k v mem
      simp only [List.mem_cons, Prod.mk.injEq, List.not_mem_nil, or_false] at mem
      rcases mem with ⟨rfl, rfl⟩ | ⟨rfl, rfl⟩ | ⟨rfl, rfl⟩
      · exact passes_of_read (c.action.decode_wireName .direct)
      · exact passes_of_read instruments
      · exact passes_of_read locations
    · apply bind_eq_ok.mpr
      use c.action, Fields.required_ofList distinct rfl (c.action.decode_wireName .direct)
      apply bind_eq_ok.mpr
      use c.instruments, Fields.orElse_ofList distinct rfl instruments
      apply bind_eq_ok.mpr
      use c.locations, Fields.orElse_ofList distinct rfl locations
      rfl

/-- What is written on the wire is read back as it was. An instrument is, wherever it stands in a
document, just if its expiry is a whole number of milliseconds. A command is, whatever its locations,
just if all of its instruments are. -/
theorem wire_forms_read_back :
  (∀ passage (i : Instrument), Instrument.decode passage i.toJson = .ok i ↔ i.ExpiresWhole)
    ∧ ∀ c : Command, Command.decode c.toJson = .ok c ↔ ∀ i ∈ c.instruments, i.ExpiresWhole
  := ⟨Instrument.decode_toJson_iff, Command.decode_toJson_iff⟩

end Instrumentation
