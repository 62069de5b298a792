import Instrumentation.Json
import Instrumentation.Json.Printer
import Instrumentation.Text.Quoted

/-!
# Typed readings of JSON values

Readers of texts, words, lists, variants and records, and the first problem that one of them
meets.

A record is an object, whose members are read in key order, or an array, whose items are the
fields in the order of their declaration. Fields of unknown name are passed over. What is
missing is noticed after what is wrong.

A part of a document whose type depends on a tag is held back until the tag is known. The few
messages that count items or allow an empty object differ for parts held back.
-/

namespace Instrumentation

/-- A way to reach a part of a document: at once, or after a tag was read. -/
inductive Passage where
  /-- The part is read in place. -/
  | direct
  /-- The part was held back until its tag was known. -/
  | heldBack
deriving DecidableEq

/-- A problem with the shape or the content of a JSON value. -/
inductive DecodeError where
  /-- The text is not JSON. -/
  | malformed
  /-- A required field is absent. -/
  | missingField (name : String)
  /-- A field is given twice, under two of its names. -/
  | duplicateField (name : String)
  /-- A value of the wrong kind. -/
  | invalidType (got : Json) (want : String)
  /-- A value of the right kind that is out of range. -/
  | invalidValue (got : Json) (want : String)
  /-- A variant that is none of the known ones. -/
  | unknownVariant (name : String) (known : List String)
  /-- A sequence with too few or too many items. -/
  | invalidLength (count : Nat) (want : String)
  /-- Milliseconds that are no representable time. -/
  | illegalTimestamp (millis : Int)
  /-- A text that is no date and time, with the reason. -/
  | unreadableDate (reason : String)
deriving Inhabited

namespace DecodeError

/-- A value as messages name it. -/
def describe : Json → String
  | .null => "null"
  | .bool b => "boolean `" ++ (if b then "true" else "false") ++ "`"
  | .number (.integer n) => "integer `" ++ Json.numeral (.integer n) ++ "`"
  | .number (.double x) => "floating point `" ++ Json.numeral (.double x) ++ "`"
  | .string s => "string " ++ Text.quoted s
  | .array _ => "sequence"
  | .object _ => "map"

/-- A name between grave accents. -/
def ticked (s : String) : String := "`" ++ s ++ "`"

/-- The known variants as messages list them. -/
def alternatives : List String → String
  | [] => "there are no variants"
  | [a] => "expected " ++ ticked a
  | [a, b] => "expected " ++ ticked a ++ " or " ++ ticked b
  | known => "expected one of " ++ ", ".intercalate (known.map ticked)

/-- The wording of a problem. The wording of what is wrong with a malformed text is left
open. -/
def message : DecodeError → String
  | malformed => "<json>"
  | missingField name => "missing field " ++ ticked name
  | duplicateField name => "duplicate field " ++ ticked name
  | invalidType got want => "invalid type: " ++ describe got ++ ", expected " ++ want
  | invalidValue got want => "invalid value: " ++ describe got ++ ", expected " ++ want
  | unknownVariant name known => "unknown variant " ++ ticked name ++ ", " ++ alternatives known
  | invalidLength count want =>
    "invalid length " ++ String.ofList (Decimal.digits count) ++ ", expected " ++ want
  | illegalTimestamp millis =>
    "value is not a legal timestamp: " ++ String.ofList (Decimal.signed false millis)
  | unreadableDate reason => reason

end DecodeError

/-- A reader of JSON values. -/
abbrev Decoder (α : Type) := Json → Except DecodeError α

namespace Decoder

variable {α : Type}

/-- Any value as it is. -/
def any : Decoder Json := .ok

/-- A text. -/
def text : Decoder String
  | .string s => .ok s
  | v => .error (.invalidType v "a string")

/-- A truth value. -/
def boolean : Decoder Bool
  | .bool b => .ok b
  | v => .error (.invalidType v "a boolean")

/-- The members of an object. -/
def members : Decoder (Dict Json)
  | .object ms => .ok ms
  | v => .error (.invalidType v "a map")

/-- An integer from zero to below `bound`, under the name of its type. -/
def word (name : String) (bound : Nat) : Decoder Nat
  | .number (.integer n) =>
    if 0 ≤ n.val ∧ n.val < bound then .ok n.val.toNat
    else .error (.invalidValue (.number (.integer n)) name)
  | v => .error (.invalidType v name)

/-- A word of 32 bits. -/
def uint32 (v : Json) : Except DecodeError UInt32 := (word "u32" UInt32.size v).map UInt32.ofNat

/-- A word of 64 bits. -/
def uint64 (v : Json) : Except DecodeError UInt64 := (word "u64" UInt64.size v).map UInt64.ofNat

/-- A count, as wide as a word of 64 bits. -/
def count (v : Json) : Except DecodeError UInt64 := (word "usize" UInt64.size v).map UInt64.ofNat

/-- Nothing for null, else what `read` yields. -/
def optional (read : Decoder α) : Decoder (Option α)
  | .null => .ok none
  | v => (read v).map some

/-- The items of an array, each read by `read`. -/
def list (read : Decoder α) : Decoder (List α)
  | .array xs => xs.mapM read
  | v => .error (.invalidType v "a sequence")

/-- The empty content of a variant. A part held back may be an empty object as well. -/
def unit (passage : Passage) : Decoder Unit
  | .null => .ok ()
  | .object ms =>
    if passage = .heldBack ∧ ms.isEmpty then .ok ()
    else .error (.invalidType (.object ms) "unit")
  | v => .error (.invalidType v "unit")

/-- One of the listed variants by its name. -/
def named (known : List (String × α)) (name : String) : Except DecodeError α :=
  match known.lookup name with
  | some a => .ok a
  | none => .error (.unknownVariant name (known.map Prod.fst))

/-- One of the listed variants: its name, or an object with the name as its only key. -/
def variant (passage : Passage) (known : List (String × α)) : Decoder α
  | .string s => named known s
  | .object ⟨.cons k _ v .nil⟩ => do
    let a ← named known k
    unit passage v
    return a
  | .object ms => .error (.invalidValue (.object ms) "map with a single key")
  | v => .error (.invalidType v "string or map")

end Decoder

/-- What readers know of a record: how messages call it, and its fields in the order of
their declaration. -/
structure Shape where
  /-- The name in messages. -/
  name : String
  /-- The fields. -/
  fields : List String

/-- The fields of a record as a document gives them. -/
structure Fields where
  /-- The given fields in the order in which they are read, each name once. -/
  given : List (String × Json)
  /-- The problem of an absent field. -/
  absent : String → DecodeError

namespace Fields

variable {α : Type}

/-- The problem of `field` when the items of an array end before it. -/
def endsBefore (shape : Shape) (field : String) : DecodeError :=
  let n := shape.fields.length
  .invalidLength (shape.fields.idxOf field)
    (shape.name ++ " with " ++ String.ofList (Decimal.digits n)
      ++ (if n = 1 then " element" else " elements"))

/-- The problem of an array with more than `n` items. -/
def excess (passage : Passage) (n count : Nat) : DecodeError :=
  match passage with
  | .direct => .invalidLength count "fewer elements in array"
  | .heldBack =>
    .invalidLength count
      (String.ofList (Decimal.digits n)
        ++ (if n = 1 then " element in sequence" else " elements in sequence"))

/-- The fields that an array gives: each item under the name of the field at its place. -/
def ofItems (shape : Shape) (items : List Json) : Fields :=
  { given := shape.fields.zip items, absent := endsBefore shape }

/-- The fields that an object gives. -/
def ofMembers (ms : Dict Json) : Fields := { given := ms.entries, absent := .missingField }

/-- A given field. -/
def get? (fs : Fields) (field : String) : Option Json := fs.given.lookup field

/-- Every given field, in order, passes its check. -/
def check (fs : Fields) (problem : String → Decoder Unit) : Except DecodeError Unit :=
  fs.given.forM fun e => problem e.1 e.2

/-- A field that has to be given. -/
def required (fs : Fields) (field : String) (read : Decoder α) : Except DecodeError α :=
  match fs.get? field with
  | some v => read v
  | none => .error (fs.absent field)

/-- A field that may be absent. -/
def orElse (fs : Fields) (field : String) (read : Decoder α) (default : α) :
    Except DecodeError α :=
  match fs.get? field with
  | some v => read v
  | none => .ok default

end Fields

/-- A check that reads a value and forgets it. -/
def Decoder.passes {α : Type} (read : Decoder α) : Decoder Unit := fun v => (read v).map fun _ => ()

/-- A record: its given fields are checked in the order in which they are read, then it is
built from them, and last an array must not have items left. -/
def Decoder.record {α : Type} (passage : Passage) (shape : Shape)
    (problem : Fields → String → Decoder Unit) (build : Fields → Except DecodeError α) :
    Decoder α
  | .object ms => do
    let fs := Fields.ofMembers ms
    fs.check (problem fs)
    build fs
  | .array xs => do
    let fs := Fields.ofItems shape xs
    fs.check (problem fs)
    let a ← build fs
    if shape.fields.length < xs.length then
      throw (Fields.excess passage shape.fields.length xs.length)
    return a
  | v => .error (.invalidType v shape.name)

/-- A record of one of several kinds. The tag that tells the kind is a member, or the first item
of an array; the record is what is left. -/
def Decoder.tagged {κ α : Type} (name tagField : String) (tag : Decoder κ)
    (content : κ → Decoder α) : Decoder α
  | .object ms => do
    let kind ← (Fields.ofMembers ms).required tagField tag
    content kind (.object ms)
  | .array [] => .error (.missingField tagField)
  | .array (v :: rest) => do
    let kind ← tag v
    content kind (.array rest)
  | v => .error (.invalidType v name)

end Instrumentation
