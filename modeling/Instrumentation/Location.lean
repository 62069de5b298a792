import Instrumentation.Json.Decode

/-!
# Patch points

A location is a line of a code unit. The unit may be written as the signature of a method, and
is then reduced to the unit that owns the method. An instrument answers a lookup for its own
unit and for every unit it is nested in; nested units are named after a dollar sign.
-/

namespace Instrumentation

/-- A line of a code unit. -/
structure Location where
  /-- The unit as the control plane writes it. -/
  unit : String
  /-- The line, from one. -/
  line : UInt32
deriving DecidableEq, Inhabited

namespace Location

/-- A name without its last part and the dot before it. A name without dots stays whole. -/
def owner (name : List Char) : List Char :=
  match name.reverse.dropWhile (· ≠ '.') with
  | [] => name
  | _ :: rest => rest.reverse

/-- The unit to be patched: the owner of the method for a signature, else the unit. -/
def unitName (l : Location) : String :=
  if l.unit.toList.contains '(' then
    String.ofList (owner (l.unit.toList.takeWhile (· ≠ '(')))
  else l.unit

/-- The rest of a text after a given start. -/
def dropStart? : List Char → List Char → Option (List Char)
  | [], cs => some cs
  | _ :: _, [] => none
  | a :: start, c :: cs => if a = c then dropStart? start cs else none

/-- The unit is `outer` or nested in it. -/
def isWithin (unit outer : String) : Bool :=
  match dropStart? outer.toList unit.toList with
  | some [] => true
  | some (c :: _) => c = '$'
  | none => false

/-- An instrument at this location answers a lookup for `query`. -/
def answers (l query : Location) : Bool := l.line = query.line && isWithin l.unit query.unit

/-- The order by unit, then by line. -/
def order (l m : Location) : Ordering := (compare l.unit m.unit).then (compare l.line m.line)

/-- The location as it is shown. -/
def display (l : Location) : String :=
  l.unit ++ ":" ++ String.ofList (Decimal.digits l.line.toNat)

/-- The location on the wire. -/
def toJson (l : Location) : Json :=
  Json.ofMembers [("unit", .string l.unit), ("line", Json.ofUInt32 l.line)]

/-- What messages call a location, and its fields. -/
def shape : Shape := { name := "struct LocationKey", fields := ["unit", "line"] }

/-- The problem of a given field. The unit has a second name, under which it must not be
given again. -/
def problem (fs : Fields) : String → Decoder Unit
  | "line", v => Decoder.passes Decoder.uint32 v
  | "source", v => Decoder.passes Decoder.text v
  | "unit", v =>
    if (fs.get? "source").isSome then .error (.duplicateField "unit")
    else Decoder.passes Decoder.text v
  | _, _ => .ok ()

/-- A location from its wire form. -/
def decode (passage : Passage) : Decoder Location :=
  Decoder.record passage shape problem fun fs => do
    let unit ←
      match fs.get? "source" with
      | some v => Decoder.text v
      | none => fs.required "unit" Decoder.text
    let line ← fs.required "line" Decoder.uint32
    return { unit, line }

end Location

end Instrumentation
