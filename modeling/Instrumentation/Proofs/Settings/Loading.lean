import Instrumentation.Proofs.Settings
import Instrumentation.Settings.Loading
import Mathlib

/-!
# Settings in layers

A variable of the environment sets a number just if its text writes one within the range of the
setting, so that any other text does what no variable does. Where the variables set nothing, the file
counts, and the defaults count where neither does. The settings are loaded just if the file has no
value of a wrong type and an engine can run with the result.
-/

namespace Instrumentation

namespace Settings

/-! ### Numbers in texts -/

/-- The text writes the number in decimal digits, at least one, with a plus sign or none before
them. -/
def Writes (text : String) (n : Nat) : Prop :=
  ∃ ds : List Char, (text.toList = ds ∨ text.toList = '+' :: ds) ∧ ds ≠ [] ∧ (∀ c ∈ ds, c.isDigit)
    ∧ Nat.ofDigitChars 10 ds 0 = n

section Numbers

variable {text name : String} {bound least greatest n : Nat} {env : Environment}

/-- Digits are read as the number that they write. -/
theorem digits_eq_some_iff {ds : List Char} :
  (if ds.isEmpty || !ds.all Char.isDigit then none
      else some (ds.foldl (fun n c => 10 * n + (c.toNat - '0'.toNat)) 0)) = some n
    ↔ ds ≠ [] ∧ (∀ c ∈ ds, c.isDigit) ∧ Nat.ofDigitChars 10 ds 0 = n
  := by
  rw [Nat.ofDigitChars]
  simp only [Bool.or_eq_true, List.isEmpty_iff, Bool.not_eq_true', List.all_eq_false,
    Option.ite_none_left_eq_some, Option.some.injEq, not_or, not_exists, not_and, not_not, and_assoc,
    ne_eq]

/-- The number that is read of a text is the one that the text writes. -/
theorem parseDigits?_eq_some_iff :
  parseDigits? text = some n ↔ Writes text n
  := by
  rw [parseDigits?, digits_eq_some_iff]
  split
  next ds signed =>
    rw [Writes, signed]
    constructor
    · rintro ⟨some, digits, rfl⟩
      exact ⟨ds, .inr rfl, some, digits, rfl⟩
    · rintro ⟨_, rfl | same, some, digits, rfl⟩
      · cases digits '+' List.mem_cons_self
      · obtain rfl := (List.cons.inj same).2
        exact ⟨some, digits, rfl⟩
  next unsigned =>
    constructor
    · rintro ⟨some, digits, rfl⟩
      exact ⟨_, .inl rfl, some, digits, rfl⟩
    · rintro ⟨ds, rfl | signed, some, digits, rfl⟩
      · exact ⟨some, digits, rfl⟩
      · exact absurd signed (unsigned ds)

/-- The variable is set to a number within a range. -/
def Environment.Sets (env : Environment) (name : String) (least greatest n : Nat) : Prop :=
  ∃ text, env name = some text ∧ Writes text n ∧ least ≤ n ∧ n ≤ greatest

/-- A number is read of a variable just if the variable is set to it within the range. -/
theorem parseRange?_eq_some_iff (fits : greatest < bound) :
  ((env name).bind fun text => parseRange? bound text least greatest) = some n
    ↔ env.Sets name least greatest n
  := by
  rw [Option.bind_eq_some_iff]
  apply exists_congr
  intro text
  apply and_congr_right'
  rw [← parseDigits?_eq_some_iff, parseRange?]
  cases parseDigits? text with
  | none => simp
  | some m =>
    simp only [Option.ite_none_right_eq_some, Option.some.injEq]
    constructor
    · rintro ⟨⟨-, lower, upper⟩, rfl⟩
      exact ⟨rfl, lower, upper⟩
    · rintro ⟨rfl, lower, upper⟩
      exact ⟨⟨by omega, lower, upper⟩, rfl⟩

/-- A word is read of a variable just if the variable is set to its value within the range. -/
theorem word?_eq_some_iff {α : Type} {ofNat : Nat → α} {toNat : α → Nat} {a : α}
    (fits : greatest < bound) (ofNat_toNat : ∀ a, ofNat (toNat a) = a)
    (toNat_ofNat : ∀ n < bound, toNat (ofNat n) = n) :
  ((env name).bind fun text => parseRange? bound text least greatest).map ofNat = some a
    ↔ env.Sets name least greatest (toNat a)
  := by
  rw [Option.map_eq_some_iff]
  constructor
  · rintro ⟨n, read, rfl⟩
    have sets := (parseRange?_eq_some_iff fits).mp read
    obtain ⟨-, -, -, -, upper⟩ := sets
    rw [toNat_ofNat n (by omega)]
    exact (parseRange?_eq_some_iff fits).mp read
  · intro sets
    exact ⟨toNat a, (parseRange?_eq_some_iff fits).mpr sets, ofNat_toNat a⟩

end Numbers

/-! ### The environment -/

/-- The variables of an environment set what a layer does. -/
structure Environment.Gives (env : Environment) (l : Layer) : Prop where
  /-- The milliseconds between two ticks. -/
  tickInterval : ∀ n, l.tickInterval = some n
    ↔ env.Sets "LIVEPROBE_TICK_INTERVAL_MS" 100 600000 n.toNat
  /-- The milliseconds between two attempts. -/
  backoff : ∀ n, l.backoff = some n ↔ env.Sets "LIVEPROBE_RETRY_BACKOFF_MS" 100 3600000 n.toNat
  /-- The number of attempts. -/
  maxAttempts : ∀ n, l.maxAttempts = some n
    ↔ env.Sets "LIVEPROBE_RETRY_MAX_ATTEMPTS" 1 1000000 n.toNat
  /-- The size of the event channel. -/
  channelCapacity : ∀ n, l.channelCapacity = some n
    ↔ env.Sets "LIVEPROBE_EVENT_CAPACITY" 1 1048576 n.toNat
  /-- The level of the log. -/
  logLevel : ∀ level, l.logLevel = some level ↔ env "LIVEPROBE_LOG_LEVEL" = some level ∧ level ≠ ""

section Environments

variable {env env' : Environment} {l l' : Layer}

/-- The layer that the variables of an environment are read as. -/
def Environment.layer (env : Environment) : Layer :=
  { tickInterval := tickInterval? env
    backoff := backoff? env
    maxAttempts := maxAttempts? env
    channelCapacity := channelCapacity? env
    logLevel := logLevel? env }

/-- The variables are read as what they set. -/
theorem Environment.gives_layer (env : Environment) :
  env.Gives env.layer
  where
  tickInterval n := word?_eq_some_iff (by decide) (fun _ => UInt64.ofNat_toNat)
    fun _ => UInt64.toNat_ofNat_of_lt
  backoff n := word?_eq_some_iff (by decide) (fun _ => UInt64.ofNat_toNat)
    fun _ => UInt64.toNat_ofNat_of_lt
  maxAttempts n := word?_eq_some_iff (by decide) (fun _ => UInt32.ofNat_toNat)
    fun _ => UInt32.toNat_ofNat_of_lt
  channelCapacity n := word?_eq_some_iff (by decide) (fun _ => UInt64.ofNat_toNat)
    fun _ => UInt64.toNat_ofNat_of_lt
  logLevel level := by
    change (env "LIVEPROBE_LOG_LEVEL").filter _ = some level ↔ _
    simp [Option.filter_eq_some_iff]

/-- An environment sets what one layer does only. -/
theorem Environment.Gives.unique (h : env.Gives l) (h' : env.Gives l') :
  l = l'
  := by
  have tickInterval : l.tickInterval = l'.tickInterval :=
    Option.ext fun n => (h.tickInterval n).trans (h'.tickInterval n).symm
  have backoff : l.backoff = l'.backoff :=
    Option.ext fun n => (h.backoff n).trans (h'.backoff n).symm
  have maxAttempts : l.maxAttempts = l'.maxAttempts :=
    Option.ext fun n => (h.maxAttempts n).trans (h'.maxAttempts n).symm
  have channelCapacity : l.channelCapacity = l'.channelCapacity :=
    Option.ext fun n => (h.channelCapacity n).trans (h'.channelCapacity n).symm
  have logLevel : l.logLevel = l'.logLevel :=
    Option.ext fun level => (h.logLevel level).trans (h'.logLevel level).symm
  cases l
  cases l'
  congr 1

/-- The variables are laid over the settings. -/
theorem override_eq (s : Settings) (env : Environment) :
  s.override env = env.layer.over s
  := rfl

/-- Settings are loaded alike in environments that are read alike. -/
theorem load_congr (file : SettingsFile) (same : env.layer = env'.layer) :
  load file env = load file env'
  := by simp only [load, override_eq, same]

end Environments

/-! ### Files -/

/-- An engine can run with the settings. -/
structure IsUsable (s : Settings) : Prop where
  /-- Ticks are apart. -/
  tickInterval : s.tickInterval ≠ 0
  /-- There is an attempt at least. -/
  maxAttempts : s.maxAttempts ≠ some 0
  /-- There is room for an event. -/
  channelCapacity : s.channelCapacity ≠ 0

/-- Settings with which an engine can run are not refused. -/
theorem validate_eq_ok_iff {s : Settings} :
  s.validate = .ok () ↔ s.IsUsable
  := by
  rw [validate]
  constructor
  · intro valid
    split at valid
    next => cases valid
    next tick =>
      split at valid
      next => cases valid
      next cap =>
        split at valid
        next => cases valid
        next room => exact ⟨tick, cap, room⟩
  · rintro ⟨tick, cap, room⟩
    rw [if_neg tick, if_neg cap, if_neg room]

end Settings

namespace SettingsFile

variable {file : SettingsFile} {ms : Dict Json}

/-- The file holds an object, or it is missing, which does what an object without members would. -/
inductive Holds : SettingsFile → Dict Json → Prop where
  /-- No file. -/
  | missing : Holds .missing .empty
  /-- A file with an object. -/
  | bytes {content : ByteArray} {ms : Dict Json} (read : json content = .ok (.object ms)) :
    Holds (.bytes content) ms

/-- What a file holds is laid over the defaults. -/
theorem Holds.layered (h : file.Holds ms) :
  file.layered = .ok (Settings.default.toJson.merge (.object ms))
  := by
  cases h with
  | missing => rfl
  | bytes read =>
    rw [SettingsFile.layered, bind_of_ok read]
    rfl

/-- A file with the text of an object holds the object. -/
theorem holds_of_parse {text : String} (parsed : Json.parse? text = some (.object ms)) :
  Holds (.bytes text.toUTF8) ms
  := by
  apply Holds.bytes
  have decoded : String.fromUTF8? text.toUTF8 = some text := dif_pos text.isValidUTF8
  rw [json, decoded]
  dsimp only
  rw [parsed]

end SettingsFile

namespace Settings

variable {file : SettingsFile} {ms : Dict Json}

/-- Settings are loaded from a file with an object just if they are read from the object, and an
engine can run with them under the variables. -/
theorem load_eq_ok_iff (held : file.Holds ms) {env : Environment} {s : Settings} :
  load file env = .ok s
    ↔ ∃ t, decode (default.toJson.merge (.object ms)) = .ok t ∧ s = env.layer.over t ∧ s.IsUsable
  := by
  rw [load, bind_of_ok held.layered]
  cases decode (default.toJson.merge (.object ms)) with
  | error cause =>
    constructor
    · intro loads
      cases loads
    · rintro ⟨_, ⟨⟩, -⟩
  | ok t =>
    change (do (t.override env).validate; return t.override env) = .ok s ↔ _
    rw [bind_eq_ok, override_eq]
    constructor
    · rintro ⟨⟨⟩, valid, ⟨⟩⟩
      exact ⟨t, rfl, rfl, validate_eq_ok_iff.mp valid⟩
    · rintro ⟨_, ⟨⟩, rfl, usable⟩
      exact ⟨(), validate_eq_ok_iff.mpr usable, rfl⟩

/-- Settings are loaded in layers from a file that is missing or holds an object with objects for
sections. The environment sets one layer. The settings are loaded just if each value that the file
gives to a field has the form of its type, and an engine can run with the result. The result has, for
each setting, what the environment sets, or else what the file gives, or else the default.
Environments that set the same, however they fail to set the rest, load the same or fail alike. -/
theorem loads_in_layers (held : file.Holds ms) (sectioned : Sectioned (.object ms))
    (env : Environment) :
  ∃ upper : Layer, env.Gives upper
    ∧ (∀ s, load file env = .ok s
      ↔ ∃ lower : Layer, lower.WrittenIn (.object ms) ∧ s = upper.over (lower.over default)
          ∧ s.IsUsable)
    ∧ ∀ env' : Environment, env'.Gives upper → load file env' = load file env
  := by
  use env.layer, env.gives_layer
  constructor
  · intro s
    rw [load_eq_ok_iff held]
    simp only [decode_merge_eq_ok_iff sectioned]
    constructor
    · rintro ⟨_, ⟨lower, written, rfl⟩, rfl, usable⟩
      exact ⟨lower, written, rfl, usable⟩
    · rintro ⟨lower, written, rfl, usable⟩
      exact ⟨_, ⟨lower, written, rfl⟩, rfl, usable⟩
  · intro env' gives
    exact load_congr file (env'.gives_layer.unique gives)

/-- An environment with a number for one setting, and with a text that is none for another. -/
def Environment.mixed : Environment
  | "LIVEPROBE_EVENT_CAPACITY" => some "+16"
  | "LIVEPROBE_RETRY_BACKOFF_MS" => some "soon"
  | _ => none

/-- The number counts alone. -/
theorem Environment.layer_mixed :
  mixed.layer = ⟨none, none, none, some 16, none⟩
  := by
  have tick : tickInterval? mixed = none := by rfl
  have pace : backoff? mixed = none := by cbv
  have cap : maxAttempts? mixed = none := by rfl
  have size : channelCapacity? mixed = some 16 := by cbv
  have level : logLevel? mixed = none := by rfl
  rw [layer, tick, pace, cap, size, level]

/-- An object with one field and a null for a section. -/
def ofTick : Dict Json :=
  .ofList [("retry", .null), ("scheduler", Json.ofMembers [("tickIntervalMs", Json.ofUInt64 250)])]

/-- A file with that object. -/
def ofTickFile : SettingsFile :=
  .bytes "\x7b\"scheduler\": \x7b\"tickIntervalMs\": 250\x7d, \"retry\": null\x7d".toUTF8

/-- The file holds the object. -/
theorem holds_ofTick :
  ofTickFile.Holds ofTick
  := by
  apply SettingsFile.holds_of_parse
  cbv

/-- Its sections are objects. -/
theorem sectioned_ofTick :
  Sectioned (.object ofTick)
  := by
  have scheduler : (Json.object ofTick).given? "scheduler"
      = some (Json.ofMembers [("tickIntervalMs", Json.ofUInt64 250)]) := by rfl
  have retry : (Json.object ofTick).given? "retry" = none := by rfl
  have events : (Json.object ofTick).given? "events" = none := by rfl
  have logging : (Json.object ofTick).given? "logging" = none := by rfl
  intro name known w present
  simp only [shape, List.mem_cons, List.not_mem_nil, or_false] at known
  rcases known with rfl | rfl | rfl | rfl
  · cases scheduler.symm.trans present
    exact ⟨_, rfl⟩
  · cases retry.symm.trans present
  · cases events.symm.trans present
  · cases logging.symm.trans present

/-- A file with one field, under variables of which one counts. -/
theorem loads_in_layers_mixed :
  ∃ upper : Layer, Environment.mixed.Gives upper
    ∧ upper.over (Layer.over ⟨some 250, none, none, none, none⟩ default)
      = ⟨250, 5000, none, 16, "warn"⟩
    ∧ load ofTickFile .mixed = .ok ⟨250, 5000, none, 16, "warn"⟩
  := by
  obtain ⟨upper, gives, loads, -⟩ := loads_in_layers holds_ofTick sectioned_ofTick .mixed
  have layered : upper.over (Layer.over ⟨some 250, none, none, none, none⟩ default)
      = ⟨250, 5000, none, 16, "warn"⟩ := by
    rw [gives.unique (Environment.gives_layer _), Environment.layer_mixed]
    rfl
  refine ⟨upper, gives, layered, (loads _).mpr ?_⟩
  refine ⟨⟨some 250, none, none, none, none⟩, ⟨?_, ?_, ?_, ?_, ?_⟩, layered.symm, ⟨?_, ?_, ?_⟩⟩
  · rfl
  · rfl
  · rfl
  · rfl
  · rfl
  · decide
  · decide
  · decide

end Settings

end Instrumentation
