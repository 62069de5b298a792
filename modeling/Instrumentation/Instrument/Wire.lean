import Instrumentation.Instrument

/-!
# Instruments on the wire

An instrument is an object with the fields of its payload among its own, told apart by `type`.
Absent options are left out, and so is empty metadata.
-/

namespace Instrumentation

/-- The rate windows by their wire names. -/
def Step.names : List (String × Step) :=
  [("SECOND", .second), ("MINUTE", .minute), ("HOUR", .hour), ("DAY", .day)]

/-- The wire name of a rate window. -/
def Step.wireName : Step → String
  | second => "SECOND"
  | minute => "MINUTE"
  | hour => "HOUR"
  | day => "DAY"

/-- The meter types by their wire names. -/
def MeterType.names : List (String × MeterType) :=
  [("COUNT", .count), ("GAUGE", .gauge), ("HISTOGRAM", .histogram)]

/-- The wire name of a meter type. -/
def MeterType.wireName : MeterType → String
  | count => "COUNT"
  | gauge => "GAUGE"
  | histogram => "HISTOGRAM"

/-- The sample types by their wire names. -/
def SampleType.names : List (String × SampleType) :=
  [("NUMBER", .number), ("NUMBER_EXPRESSION", .numberExpression), ("VALUE", .value),
    ("VALUE_EXPRESSION", .valueExpression)]

/-- The wire name of a sample type. -/
def SampleType.wireName : SampleType → String
  | number => "NUMBER"
  | numberExpression => "NUMBER_EXPRESSION"
  | value => "VALUE"
  | valueExpression => "VALUE_EXPRESSION"

/-- The kinds by their wire names. -/
def Kind.names : List (String × Kind) :=
  [("BREAKPOINT", .breakpoint), ("LOG", .log), ("METER", .meter)]

/-- The wire name of a kind. -/
def Kind.wireName : Kind → String
  | breakpoint => "BREAKPOINT"
  | log => "LOG"
  | meter => "METER"

namespace Rate

/-- A rate on the wire. -/
def toJson (r : Rate) : Json :=
  Json.ofMembers [("limit", Json.ofUInt32 r.limit), ("step", .string r.step.wireName)]

/-- What messages call a rate, and its fields. -/
def shape : Shape := { name := "struct ThrottleConfig", fields := ["limit", "step"] }

/-- A rate from its wire form. -/
def decode (passage : Passage) : Decoder Rate :=
  let step := Decoder.variant passage Step.names
  let problem (_ : Fields) : String → Decoder Unit
    | "limit", v => Decoder.passes Decoder.uint32 v
    | "step", v => Decoder.passes step v
    | _, _ => .ok ()
  Decoder.record passage shape problem fun fs => do
    let limit ← fs.required "limit" Decoder.uint32
    let step ← fs.required "step" step
    return { limit, step }

end Rate

namespace Sample

/-- The source of a sample on the wire. -/
def toJson (s : Sample) : Json :=
  Json.ofMembers [("valueType", .string s.type.wireName), ("value", .string s.text)]

/-- What messages call the source of a sample, and its fields. -/
def shape : Shape := { name := "struct MetricValue", fields := ["valueType", "value"] }

/-- The source of a sample from its wire form. -/
def decode (passage : Passage) : Decoder Sample :=
  let type := Decoder.variant passage SampleType.names
  let problem (_ : Fields) : String → Decoder Unit
    | "valueType", v => Decoder.passes type v
    | "value", v => Decoder.passes Decoder.text v
    | _, _ => .ok ()
  Decoder.record passage shape problem fun fs => do
    let type ← fs.required "valueType" type
    let text ← fs.required "value" Decoder.text
    return { type, text }

end Sample

namespace Payload

/-- The fields of a payload, its tag included. -/
def members (p : Payload) : List (String × Json) :=
  ("type", .string p.kind.wireName) ::
    match p with
    | breakpoint none => []
    | breakpoint (some depth) => [("maxObjectDepth", Json.ofUInt32 depth)]
    | log format arguments =>
      [("logFormat", .string format), ("logArguments", .array (arguments.map .string))]
    | meter name type sample =>
      [("meterName", .string name), ("meterType", .string type.wireName),
        ("metricValue", sample.toJson)]

/-- The kind that a tag names. A tag that was held back may also be the place of the kind
among the kinds. -/
def decodeKind (passage : Passage) : Decoder Kind
  | .string s => Decoder.named Kind.names s
  | .number (.integer n) =>
    if passage = .heldBack ∧ 0 ≤ n.val then
      match Kind.names[n.val.toNat]? with
      | some (_, k) => .ok k
      | none => .error (.invalidValue (.number (.integer n)) "variant index 0 <= i < 3")
    else .error (.invalidType (.number (.integer n)) "variant identifier")
  | v => .error (.invalidType v "variant identifier")

/-- What messages call the payload of a kind, and its fields. -/
def shape : Kind → Shape
  | .breakpoint => { name := "struct BreakpointSpec", fields := ["maxObjectDepth"] }
  | .log => { name := "struct LogSpec", fields := ["logFormat", "logArguments"] }
  | .meter =>
    { name := "struct MeterSpec", fields := ["meterName", "meterType", "metricValue"] }

/-- The payload of a kind from its fields. -/
def decodeFields (passage : Passage) (kind : Kind) : Decoder Payload :=
  let depth := Decoder.optional Decoder.uint32
  let arguments := Decoder.list Decoder.text
  let type := Decoder.variant passage MeterType.names
  let sample := Sample.decode passage
  let problem (_ : Fields) (field : String) : Decoder Unit :=
    match kind, field with
    | .breakpoint, "maxObjectDepth" => Decoder.passes depth
    | .log, "logFormat" => Decoder.passes Decoder.text
    | .log, "logArguments" => Decoder.passes arguments
    | .meter, "meterName" => Decoder.passes Decoder.text
    | .meter, "meterType" => Decoder.passes type
    | .meter, "metricValue" => Decoder.passes sample
    | _, _ => fun _ => .ok ()
  Decoder.record passage (shape kind) problem fun fs =>
    match kind with
    | .breakpoint => return breakpoint (← fs.orElse "maxObjectDepth" depth none)
    | .log =>
      return log (← fs.required "logFormat" Decoder.text)
        (← fs.orElse "logArguments" arguments [])
    | .meter =>
      return meter (← fs.required "meterName" Decoder.text) (← fs.required "meterType" type)
        (← fs.required "metricValue" sample)

/-- A payload that stands for itself, with its tag. -/
def decode : Decoder Payload :=
  Decoder.tagged "internally tagged enum InstrumentKind" "type" (decodeKind .direct)
    (decodeFields .heldBack)

/-- The payload among the members of an object that has other fields as well. -/
def decodeAmong (ms : Dict Json) : Except DecodeError Payload := do
  let kind ← (Fields.ofMembers ms).required "type" (decodeKind .heldBack)
  decodeFields .heldBack kind (.object ms)

end Payload

namespace Instrument

/-- An optional member. -/
def optionalMember (name : String) : Option Json → List (String × Json)
  | some v => [(name, v)]
  | none => []

/-- The members of an instrument on the wire. -/
def members (i : Instrument) : List (String × Json) :=
  [("id", .string i.id), ("location", i.location.toJson)]
    ++ optionalMember "condition" (i.condition.map .string)
    ++ optionalMember "hitLimit" (i.hitLimit.map Json.ofUInt32)
    ++ optionalMember "expiresAt" (i.expiresAt.map Instant.toMillisJson)
    ++ [("applyImmediately", .bool i.applyImmediately)]
    ++ optionalMember "throttle" (i.rate.map Rate.toJson)
    ++ (if i.metadata.isEmpty then [] else [("meta", .object i.metadata)])
    ++ i.payload.members

/-- An instrument on the wire. -/
def toJson (i : Instrument) : Json := Json.ofMembers i.members

/-- The problem of a given field. -/
def problem (passage : Passage) : String → Decoder Unit
  | "applyImmediately", v => Decoder.passes Decoder.boolean v
  | "condition", v => Decoder.passes (Decoder.optional Decoder.text) v
  | "expiresAt", v => Decoder.passes (Decoder.optional Instant.decodeMillis) v
  | "hitLimit", v => Decoder.passes (Decoder.optional Decoder.uint32) v
  | "id", v => Decoder.passes Decoder.text v
  | "location", v => Decoder.passes (Location.decode passage) v
  | "meta", v => Decoder.passes Decoder.members v
  | "throttle", v => Decoder.passes (Decoder.optional (Rate.decode passage)) v
  | _, _ => .ok ()

/-- An instrument from its wire form. The payload is read last. -/
def decode (passage : Passage) : Decoder Instrument
  | .object ms => do
    let fs := Fields.ofMembers ms
    fs.check (problem passage)
    let id ← fs.required "id" Decoder.text
    let location ← fs.required "location" (Location.decode passage)
    let condition ← fs.orElse "condition" (Decoder.optional Decoder.text) none
    let hitLimit ← fs.orElse "hitLimit" (Decoder.optional Decoder.uint32) none
    let expiresAt ← fs.orElse "expiresAt" (Decoder.optional Instant.decodeMillis) none
    let applyImmediately ← fs.orElse "applyImmediately" Decoder.boolean false
    let rate ← fs.orElse "throttle" (Decoder.optional (Rate.decode passage)) none
    let metadata ← fs.orElse "meta" Decoder.members .empty
    let payload ← Payload.decodeAmong ms
    return { id, location, condition, hitLimit, expiresAt, applyImmediately, rate, metadata,
             payload }
  | v => .error (.invalidType v "struct LiveInstrument")

/-- Two instruments with equal fields and equivalent metadata. -/
def equiv (i j : Instrument) : Bool :=
  i.id == j.id && i.location == j.location && i.condition == j.condition
    && i.hitLimit == j.hitLimit && i.expiresAt == j.expiresAt
    && i.applyImmediately == j.applyImmediately && i.rate == j.rate
    && Json.equiv (.object i.metadata) (.object j.metadata) && i.payload == j.payload

end Instrument

end Instrumentation
