import Instrumentation.Proofs.Json.Merge
import Instrumentation.Settings

/-!
# Settings read from a layered object

The wire form of the defaults has every section and every field. When an object is laid over it whose
sections are objects, if it gives any, each section shows the fields that the object gives and the
defaults of the others. So settings are read from it just if each field that is given has the form of
its type, and then they are the given values, and the defaults where none is given.
-/

namespace Instrumentation

/-- Integers of one value are the same. -/
theorem Integer.eq_of_val_eq {m n : Integer} (same : m.val = n.val) :
  m = n
  := by
  obtain ⟨z, _, _⟩ := m
  obtain ⟨z', _, _⟩ := n
  obtain rfl : z = z' := same
  rfl

/-- A word of 64 bits is no object. -/
theorem Json.ofUInt64_ne_object (n : UInt64) (ms : Dict Json) :
  Json.ofUInt64 n ≠ .object ms
  := by
  rw [Json.ofUInt64]
  nofun

/-! ### Readers that accept a written form only -/

namespace Decoder

variable {α : Type} {read : Decoder α} {write : α → Json}

/-- A reader accepts just the written form of each value, and gives the value back. -/
def Inverts (read : Decoder α) (write : α → Json) : Prop := ∀ v a, read v = .ok a ↔ v = write a

/-- A word is read from an integer of its range. -/
theorem word_eq_ok_iff {name : String} {bound n : Nat} {v : Json} :
  word name bound v = .ok n ↔ ∃ z : Integer, v = .number (.integer z) ∧ z.val = n ∧ n < bound
  := by
  cases v with
  | number x =>
    cases x with
    | integer z =>
      rw [word]
      split
      next inside =>
        obtain ⟨least, greatest⟩ := inside
        constructor
        · rintro ⟨⟩
          exact ⟨z, rfl, by omega, by omega⟩
        · rintro ⟨_, ⟨⟩, val, -⟩
          rw [val, Int.toNat_natCast]
      next outside =>
        constructor
        · intro failed
          cases failed
        · rintro ⟨_, ⟨⟩, val, below⟩
          exact absurd ⟨by omega, by omega⟩ outside
    | double x => simp [word]
  | _ => simp [word]

/-- Words that are written as integers of their value are read from these only. -/
theorem inverts_word {name : String} {bound : Nat} {ofNat : Nat → α} {toNat : α → Nat}
    {integer : α → Integer} (val : ∀ a, (integer a).val = toNat a) (below : ∀ a, toNat a < bound)
    (ofNat_toNat : ∀ a, ofNat (toNat a) = a) (toNat_ofNat : ∀ n < bound, toNat (ofNat n) = n) :
  Inverts (fun v => (word name bound v).map ofNat) fun a => .number (.integer (integer a))
  := by
  intro v a
  have mapped : (word name bound v).map ofNat = .ok a
      ↔ ∃ n, word name bound v = .ok n ∧ ofNat n = a := by
    cases word name bound v with
    | error err => simp [Except.map]
    | ok n => simp [Except.map]
  rw [mapped]
  constructor
  · rintro ⟨n, read, rfl⟩
    obtain ⟨z, rfl, zval, bounded⟩ := word_eq_ok_iff.mp read
    have same : z = integer (ofNat n) := by
      apply Integer.eq_of_val_eq
      rw [zval, val, toNat_ofNat n bounded]
    rw [same]
  · rintro rfl
    exact ⟨toNat a, word_eq_ok_iff.mpr ⟨integer a, rfl, val a, below a⟩, ofNat_toNat a⟩

/-- A word of 64 bits. -/
theorem uint64_inverts :
  Inverts uint64 Json.ofUInt64
  := inverts_word (fun _ => rfl) UInt64.toNat_lt (fun _ => UInt64.ofNat_toNat)
    fun _ => UInt64.toNat_ofNat_of_lt

/-- A count. -/
theorem count_inverts :
  Inverts count Json.ofUInt64
  := inverts_word (fun _ => rfl) UInt64.toNat_lt (fun _ => UInt64.ofNat_toNat)
    fun _ => UInt64.toNat_ofNat_of_lt

/-- A word of 32 bits. -/
theorem uint32_inverts :
  Inverts uint32 Json.ofUInt32
  := inverts_word (fun _ => rfl) UInt32.toNat_lt (fun _ => UInt32.ofNat_toNat)
    fun _ => UInt32.toNat_ofNat_of_lt

/-- A text. -/
theorem text_inverts :
  Inverts text Json.string
  := by
  intro v s
  cases v with
  | string t => simp [text]
  | _ => simp [text]

/-- What is given is read, or else the default that is written in its place. -/
theorem Inverts.read_getD (h : Inverts read write) (x : Option Json) (d a : α) :
  read (x.getD (write d)) = .ok a ↔ ∃ o : Option α, x = o.map write ∧ a = o.getD d
  := by
  cases x with
  | none =>
    have given : read (write d) = .ok d := (h _ _).mpr rfl
    rw [Option.getD_none, given]
    constructor
    · rintro ⟨⟩
      exact ⟨none, rfl, rfl⟩
    · rintro ⟨o, absent, rfl⟩
      obtain rfl := Option.map_eq_none_iff.mp absent.symm
      rfl
  | some v =>
    rw [Option.getD_some, h v a]
    constructor
    · rintro rfl
      exact ⟨some a, rfl, rfl⟩
    · rintro ⟨o, given, rfl⟩
      obtain ⟨b, rfl, rfl⟩ := Option.map_eq_some_iff.mp given.symm
      rfl

/-- What is given is read, or else nothing when null is written in its place. -/
theorem Inverts.optional_getD (h : Inverts read write) {x : Option Json} (o : Option α)
    (notNull : ∀ v, x = some v → v ≠ .null) :
  optional read (x.getD .null) = .ok o ↔ x = o.map write
  := by
  cases x with
  | none =>
    rw [Option.getD_none, optional]
    constructor
    · rintro ⟨⟩
      rfl
    · intro absent
      obtain rfl := Option.map_eq_none_iff.mp absent.symm
      rfl
  | some v =>
    have given : optional read v = (read v).map some := by
      cases v with
      | null => exact absurd rfl (notNull _ rfl)
      | _ => rfl
    rw [Option.getD_some, given]
    constructor
    · intro mapped
      cases success : read v with
      | error err =>
        rw [success] at mapped
        cases mapped
      | ok a =>
        rw [success] at mapped
        cases mapped
        rw [(h v a).mp success]
        rfl
    · intro written
      obtain ⟨a, rfl, rfl⟩ := Option.map_eq_some_iff.mp written.symm
      rw [(h _ a).mpr rfl]
      rfl

/-- A record is read from an object just if it is built from the members, as long as whatever it is
built from passes its checks. -/
theorem record_object_eq_ok_iff {passage : Passage} {shape : Shape}
    {problem : Fields → String → Decoder Unit} {build : Fields → Except DecodeError α}
    {ms : Dict Json} {a : α}
    (passes : build (.ofMembers ms) = .ok a
      → ∀ k v, ms.get? k = some v → problem (.ofMembers ms) k v = .ok ()) :
  record passage shape problem build (.object ms) = .ok a ↔ build (.ofMembers ms) = .ok a
  := by
  rw [record, bind_eq_ok]
  constructor
  · rintro ⟨-, -, builds⟩
    exact builds
  · intro builds
    refine ⟨(), ?_, builds⟩
    apply Fields.check_eq_ok_iff.mpr
    intro k v mem
    exact passes builds k v (Dict.get?_of_mem mem)

end Decoder

/-- A field that is given is read, also if it need not be. -/
theorem Fields.orElse_of_get {α : Type} {ms : Dict Json} {field : String} {v : Json}
    (found : ms.get? field = some v) (read : Decoder α) (default : α) :
  (ofMembers ms).orElse field read default = read v
  := by
  have given : (ofMembers ms).get? field = some v := found
  rw [orElse, given]

/-! ### Sections -/

namespace Settings

variable {ms : Dict Json} {v w : Json} {change : Settings → Settings}

/-- A section of one field is read from an object just if the value of the field is, and makes the
change that the value does. -/
theorem section_eq_ok_iff {α : Type} {shape : Shape} {problem : Fields → String → Decoder Unit}
    {field : String} {read : Decoder α} {default : α} (set : α → Settings → Settings)
    (found : ms.get? field = some v)
    (own : ∀ fs x, problem fs field x = Decoder.passes read x)
    (others : ∀ fs k x, k ≠ field → problem fs k x = .ok ()) :
  Decoder.record .direct shape problem
      (fun fs => do return set (← fs.orElse field read default)) (.object ms) = .ok change
    ↔ ∃ a, read v = .ok a ∧ change = set a
  := by
  have given : (Fields.ofMembers ms).orElse field read default = read v :=
    Fields.orElse_of_get found read default
  rw [Decoder.record_object_eq_ok_iff, bind_eq_ok, given]
  · apply exists_congr
    intro a
    apply and_congr_right'
    constructor
    · rintro ⟨⟩
      rfl
    · rintro rfl
      rfl
  · intro builds k x present
    obtain ⟨a, success, -⟩ := bind_eq_ok.mp builds
    rw [given] at success
    by_cases same : k = field
    · subst same
      cases found.symm.trans present
      rw [own]
      exact Decoder.passes_of_read success
    · exact others _ k x same

/-- The scheduler section sets the interval of the ticks. -/
theorem schedulerSection_eq_ok_iff (found : ms.get? "tickIntervalMs" = some v) :
  schedulerSection (.object ms) = .ok change
    ↔ ∃ n, Decoder.uint64 v = .ok n ∧ change = fun s => { s with tickInterval := n }
  := by
  rw [schedulerSection]
  apply section_eq_ok_iff (fun n s => { s with tickInterval := n }) found
  · exact fun _ _ => rfl
  · intro _ k x other
    split
    · contradiction
    · rfl

/-- The retry section sets the pace and the number of the attempts. -/
theorem retrySection_eq_ok_iff (backoff : ms.get? "backoffMs" = some v)
    (cap : ms.get? "maxAttempts" = some w) :
  retrySection (.object ms) = .ok change
    ↔ ∃ n, Decoder.uint64 v = .ok n ∧ ∃ o, Decoder.optional Decoder.uint32 w = .ok o
        ∧ change = fun s => { s with backoff := n, maxAttempts := o }
  := by
  have given : (Fields.ofMembers ms).orElse "backoffMs" Decoder.uint64 default.backoff
      = Decoder.uint64 v := Fields.orElse_of_get backoff _ _
  have given' : (Fields.ofMembers ms).orElse "maxAttempts" (Decoder.optional Decoder.uint32) none
      = Decoder.optional Decoder.uint32 w := Fields.orElse_of_get cap _ _
  rw [retrySection, Decoder.record_object_eq_ok_iff, bind_eq_ok, given]
  · apply exists_congr
    intro n
    apply and_congr_right'
    rw [bind_eq_ok, given']
    apply exists_congr
    intro o
    apply and_congr_right'
    constructor
    · rintro ⟨⟩
      rfl
    · rintro rfl
      rfl
  · intro builds k x present
    obtain ⟨n, first, builds⟩ := bind_eq_ok.mp builds
    obtain ⟨o, second, -⟩ := bind_eq_ok.mp builds
    rw [given] at first
    rw [given'] at second
    split
    next =>
      cases backoff.symm.trans present
      exact Decoder.passes_of_read first
    next =>
      cases cap.symm.trans present
      exact Decoder.passes_of_read second
    next => rfl

/-- The events section sets the size of the channel. -/
theorem eventsSection_eq_ok_iff (found : ms.get? "channelCapacity" = some v) :
  eventsSection (.object ms) = .ok change
    ↔ ∃ n, Decoder.count v = .ok n ∧ change = fun s => { s with channelCapacity := n }
  := by
  rw [eventsSection]
  apply section_eq_ok_iff (fun n s => { s with channelCapacity := n }) found
  · exact fun _ _ => rfl
  · intro _ k x other
    split
    · contradiction
    · rfl

/-- The logging section sets the level of the log. -/
theorem loggingSection_eq_ok_iff (found : ms.get? "level" = some v) :
  loggingSection (.object ms) = .ok change
    ↔ ∃ s, Decoder.text v = .ok s ∧ change = fun t => { t with logLevel := s }
  := by
  rw [loggingSection]
  apply section_eq_ok_iff (fun s t => { t with logLevel := s }) found
  · exact fun _ _ => rfl
  · intro _ k x other
    split
    · contradiction
    · rfl

/-! ### Layers -/

/-- What one source of settings sets. -/
structure Layer where
  /-- The milliseconds between two ticks. -/
  tickInterval : Option UInt64
  /-- The milliseconds between two attempts. -/
  backoff : Option UInt64
  /-- The number of attempts. -/
  maxAttempts : Option UInt32
  /-- The size of the event channel. -/
  channelCapacity : Option UInt64
  /-- The level of the log. -/
  logLevel : Option String

/-- The settings with a layer over them. -/
def Layer.over (l : Layer) (s : Settings) : Settings :=
  { tickInterval := l.tickInterval.getD s.tickInterval
    backoff := l.backoff.getD s.backoff
    maxAttempts := l.maxAttempts <|> s.maxAttempts
    channelCapacity := l.channelCapacity.getD s.channelCapacity
    logLevel := l.logLevel.getD s.logLevel }

/-- The value that an object gives to a field of a section. -/
def given? (v : Json) (name field : String) : Option Json :=
  (v.given? name).bind fun w => w.given? field

/-- Each section that is given is an object. -/
def Sectioned (v : Json) : Prop :=
  ∀ name ∈ shape.fields, ∀ w, v.given? name = some w → ∃ ns, w = .object ns

/-- The values that an object gives to the fields are those that a layer sets, in the forms of their
types. -/
structure Layer.WrittenIn (l : Layer) (v : Json) : Prop where
  /-- The scheduler section. -/
  tickInterval : given? v "scheduler" "tickIntervalMs" = l.tickInterval.map Json.ofUInt64
  /-- The pace in the retry section. -/
  backoff : given? v "retry" "backoffMs" = l.backoff.map Json.ofUInt64
  /-- The cap in the retry section. -/
  maxAttempts : given? v "retry" "maxAttempts" = l.maxAttempts.map Json.ofUInt32
  /-- The events section. -/
  channelCapacity : given? v "events" "channelCapacity" = l.channelCapacity.map Json.ofUInt64
  /-- The logging section. -/
  logLevel : given? v "logging" "level" = l.logLevel.map Json.string

/-- The fields of each section with their defaults. -/
def defaults : List (String × List (String × Json)) :=
  [("scheduler", [("tickIntervalMs", Json.ofUInt64 default.tickInterval)]),
    ("retry", [("backoffMs", Json.ofUInt64 default.backoff), ("maxAttempts", .null)]),
    ("events", [("channelCapacity", Json.ofUInt64 default.channelCapacity)]),
    ("logging", [("level", .string default.logLevel)])]

/-- The wire form of the defaults. -/
theorem toJson_default :
  default.toJson = Json.ofMembers (defaults.map fun e => (e.1, Json.ofMembers e.2))
  := rfl

/-- The sections with defaults are those of the settings. -/
theorem fst_defaults :
  defaults.map Prod.fst = shape.fields
  := rfl

/-- No field of a section has two defaults. -/
theorem distinct_defaults {name : String} {es : List (String × Json)} (mem : (name, es) ∈ defaults) :
  (es.map Prod.fst).Nodup
  := by
  simp only [defaults, List.mem_cons, Prod.mk.injEq, List.not_mem_nil, or_false] at mem
  rcases mem with ⟨-, rfl⟩ | ⟨-, rfl⟩ | ⟨-, rfl⟩ | ⟨-, rfl⟩ <;> simp

/-- No default is an object. -/
theorem defaults_plain {name field : String} {es : List (String × Json)} {old : Json}
    (mem : (name, es) ∈ defaults) (listed : (field, old) ∈ es) (ns : Dict Json) :
  old ≠ .object ns
  := by
  simp only [defaults, List.mem_cons, Prod.mk.injEq, List.not_mem_nil, or_false] at mem
  rcases mem with ⟨-, rfl⟩ | ⟨-, rfl⟩ | ⟨-, rfl⟩ | ⟨-, rfl⟩
  all_goals simp only [List.mem_cons, Prod.mk.injEq, List.not_mem_nil, or_false] at listed
  · obtain ⟨-, rfl⟩ := listed
    exact Json.ofUInt64_ne_object _ ns
  · rcases listed with ⟨-, rfl⟩ | ⟨-, rfl⟩
    · exact Json.ofUInt64_ne_object _ ns
    · nofun
  · obtain ⟨-, rfl⟩ := listed
    exact Json.ofUInt64_ne_object _ ns
  · obtain ⟨-, rfl⟩ := listed
    nofun

/-- A section laid over its defaults shows each field that is given, and the default of each other
one. -/
theorem exists_section (sectioned : Sectioned (.object ms)) {name : String}
    {es : List (String × Json)} (known : (name, es) ∈ defaults) :
  ∃ shown : Dict Json,
    ((Json.object ms).given? name).elim (Json.ofMembers es) (Json.merge (Json.ofMembers es))
      = .object shown
    ∧ ∀ field old, (field, old) ∈ es
      → shown.get? field = some ((given? (.object ms) name field).getD old)
  := by
  have distinct := distinct_defaults known
  cases present : (Json.object ms).given? name with
  | none =>
    refine ⟨.ofList es, rfl, ?_⟩
    intro field old listed
    rw [Dict.get?_ofList_of_mem distinct listed, given?, present]
    rfl
  | some w =>
    have own : name ∈ shape.fields := fst_defaults ▸ List.mem_map.mpr ⟨_, known, rfl⟩
    obtain ⟨ns, rfl⟩ := sectioned name own w present
    obtain ⟨shown, merged, shows⟩ := Json.merge_objects (.ofList es) ns
    refine ⟨shown, merged, ?_⟩
    intro field old listed
    rw [shows field old (Dict.get?_ofList_of_mem distinct listed), given?, present,
      Option.bind_some]
    cases (Json.object ns).given? field with
    | none => rfl
    | some x => exact congrArg some (Json.merge_of_not_object old x (defaults_plain known listed))

/-- An object laid over the defaults shows every section, each with the fields that the object gives
and the defaults of the others. -/
theorem exists_sections (sectioned : Sectioned (.object ms)) :
  ∃ merged : Dict Json, default.toJson.merge (.object ms) = .object merged
    ∧ ∀ name es, (name, es) ∈ defaults → ∃ shown : Dict Json,
      merged.get? name = some (.object shown)
        ∧ ∀ field old, (field, old) ∈ es
          → shown.get? field = some ((given? (.object ms) name field).getD old)
  := by
  rw [toJson_default, Json.ofMembers]
  obtain ⟨merged, same, shows⟩ :=
    Json.merge_objects (.ofList (defaults.map fun e => (e.1, Json.ofMembers e.2))) ms
  refine ⟨merged, same, ?_⟩
  intro name es known
  obtain ⟨shown, within, fields⟩ := exists_section sectioned known
  have listed : (name, Json.ofMembers es) ∈ defaults.map fun e => (e.1, Json.ofMembers e.2) :=
    List.mem_map.mpr ⟨_, known, rfl⟩
  have distinct : ((defaults.map fun e => (e.1, Json.ofMembers e.2)).map Prod.fst).Nodup := by
    simp [defaults]
  refine ⟨shown, ?_, fields⟩
  rw [shows name _ (Dict.get?_ofList_of_mem distinct listed), within]

/-- What an object gives is not null. -/
theorem ne_null_of_given {name field : String} (given : given? v name field = some w) :
  w ≠ .null
  := by
  obtain ⟨_, -, given⟩ := Option.bind_eq_some_iff.mp given
  exact Json.ne_null_of_given given

/-- Settings are read section by section from an object that has all of them. -/
theorem decode_object_eq_ok_iff {scheduler retry events logging : Json}
    (hs : ms.get? "scheduler" = some scheduler) (hr : ms.get? "retry" = some retry)
    (he : ms.get? "events" = some events) (hl : ms.get? "logging" = some logging) {s : Settings} :
  decode (.object ms) = .ok s
    ↔ ∃ f, schedulerSection scheduler = .ok f ∧ ∃ g, retrySection retry = .ok g
      ∧ ∃ h, eventsSection events = .ok h ∧ ∃ k, loggingSection logging = .ok k
      ∧ s = k (h (g (f default)))
  := by
  have gs := Fields.orElse_of_get hs schedulerSection id
  have gr := Fields.orElse_of_get hr retrySection id
  have ge := Fields.orElse_of_get he eventsSection id
  have gl := Fields.orElse_of_get hl loggingSection id
  rw [decode, Decoder.record_object_eq_ok_iff]
  · have settled (t : Settings) : (pure t : Except DecodeError Settings) = .ok s ↔ s = t := by
      constructor
      · rintro ⟨⟩
        rfl
      · rintro rfl
        rfl
    simp only [bind_eq_ok, gs, gr, ge, gl, settled]
  · intro builds k x present
    obtain ⟨f, first, builds⟩ := bind_eq_ok.mp builds
    obtain ⟨g, second, builds⟩ := bind_eq_ok.mp builds
    obtain ⟨h, third, builds⟩ := bind_eq_ok.mp builds
    obtain ⟨k, fourth, -⟩ := bind_eq_ok.mp builds
    rw [gs] at first
    rw [gr] at second
    rw [ge] at third
    rw [gl] at fourth
    unfold problem
    split
    next =>
      cases he.symm.trans present
      exact Decoder.passes_of_read third
    next =>
      cases hl.symm.trans present
      exact Decoder.passes_of_read fourth
    next =>
      cases hr.symm.trans present
      exact Decoder.passes_of_read second
    next =>
      cases hs.symm.trans present
      exact Decoder.passes_of_read first
    next => rfl

/-- Settings are read from an object laid over the defaults just if the fields that it gives have the
forms of their types, and then they are those of the layer that it writes. -/
theorem decode_merge_eq_ok_iff (sectioned : Sectioned (.object ms)) {s : Settings} :
  decode (default.toJson.merge (.object ms)) = .ok s
    ↔ ∃ l : Layer, l.WrittenIn (.object ms) ∧ s = l.over default
  := by
  obtain ⟨merged, same, sections⟩ := exists_sections sectioned
  obtain ⟨scheduler, hs, fs⟩ := sections "scheduler" _ (.head _)
  obtain ⟨retry, hr, fr⟩ := sections "retry" _ (.tail _ (.head _))
  obtain ⟨events, he, fe⟩ := sections "events" _ (.tail _ (.tail _ (.head _)))
  obtain ⟨logging, hl, fl⟩ := sections "logging" _ (.tail _ (.tail _ (.tail _ (.head _))))
  rw [same, decode_object_eq_ok_iff hs hr he hl]
  simp only [schedulerSection_eq_ok_iff (fs _ _ (.head _)),
    retrySection_eq_ok_iff (fr _ _ (.head _)) (fr _ _ (.tail _ (.head _))),
    eventsSection_eq_ok_iff (fe _ _ (.head _)), loggingSection_eq_ok_iff (fl _ _ (.head _)),
    Decoder.uint64_inverts.read_getD, Decoder.count_inverts.read_getD,
    Decoder.text_inverts.read_getD,
    Decoder.uint32_inverts.optional_getD _ fun _ => ne_null_of_given]
  constructor
  · rintro ⟨_, ⟨_, ⟨tick, htick, rfl⟩, rfl⟩, _, ⟨_, ⟨pace, hpace, rfl⟩, cap, hcap, rfl⟩, _,
      ⟨_, ⟨size, hsize, rfl⟩, rfl⟩, _, ⟨_, ⟨level, hlevel, rfl⟩, rfl⟩, rfl⟩
    use ⟨tick, pace, cap, size, level⟩, ⟨htick, hpace, hcap, hsize, hlevel⟩
    cases cap <;> rfl
  · rintro ⟨l, written, rfl⟩
    refine ⟨_, ⟨_, ⟨_, written.tickInterval, rfl⟩, rfl⟩, _,
      ⟨_, ⟨_, written.backoff, rfl⟩, _, written.maxAttempts, rfl⟩, _,
      ⟨_, ⟨_, written.channelCapacity, rfl⟩, rfl⟩, _, ⟨_, ⟨_, written.logLevel, rfl⟩, rfl⟩, ?_⟩
    obtain ⟨_, _, cap, _, _⟩ := l
    cases cap <;> rfl

end Settings

end Instrumentation
