import Instrumentation.Power
import Instrumentation.Text.Quoted

/-!
# Instrument identities

An instrument is named by a text of the control plane's choosing. A fresh identity is a UUID of
version 7: 48 bits of time, then random bits around the version and the variant.
-/

namespace Instrumentation

/-- The identity of an instrument. -/
abbrev InstrumentId := String

namespace InstrumentId

/-- A number in exactly `width` hexadecimal digits, the lowest ones. -/
def hex (width n : Nat) : List Char :=
  let ds := Text.hexadecimal (n % powerOfTwo (4 * width))
  List.replicate (width - ds.length) '0' ++ ds

/-- The fresh identity at a time in milliseconds, from 74 random bits. -/
def fresh (millis random : Nat) : InstrumentId :=
  let time := hex 12 millis
  String.ofList <|
    time.take 8 ++ '-' :: time.drop 8 ++ '-' :: '7' :: hex 3 (random / powerOfTwo 62)
      ++ '-' :: hex 4 (0x8000 + random / powerOfTwo 48 % powerOfTwo 14) ++ '-' :: hex 12 random

end InstrumentId

end Instrumentation
