import Instrumentation.Json
import Instrumentation.Decimal.Nearest

/-!
# JSON text

A strict reader: no blanks but space, tab and line ends, no leading zeros, no raw controls in
strings, no halves of surrogate pairs, nothing after the value, and no more than 127 containers
around any value. Of two members with one key the later counts.

A numeral without fraction and exponent is an integer if it is in range. Any other numeral
takes the scaled reading of a double, and one too large for a double is refused.
-/

namespace Instrumentation

/-- A JSON numeral taken apart. -/
structure Numeral where
  /-- A minus sign stands in front. -/
  negative : Bool
  /-- The digits before the point. -/
  whole : List Char
  /-- The digits after the point, if there is one. -/
  fraction : List Char
  /-- The exponent, if there is one. -/
  exponent : Option Int
deriving Inhabited

namespace Numeral

/-- The value of a digit. -/
def digit (c : Char) : Nat := c.toNat - '0'.toNat

/-- The number that digits write. -/
def number (ds : List Char) : Nat := ds.foldl (fun n c => 10 * n + digit c) 0

/-- Digits taken up while the coefficient fits 64 bits, with the number of those left. -/
def absorb (coefficient : Nat) : List Char → Nat × Nat
  | [] => (coefficient, 0)
  | c :: cs =>
    let next := 10 * coefficient + digit c
    if next < UInt64.size then absorb next cs else (coefficient, cs.length + 1)

/-- The double that a numeral with a fraction or an exponent stands for. Digits of the whole
part that are left over scale the coefficient up, those of the fraction are dropped. -/
def double? (n : Numeral) : Option Float :=
  let (upper, left) := absorb 0 n.whole
  let (coefficient, dropped) := absorb upper n.fraction
  let taken := n.fraction.length - dropped
  let x := Decimal.scaled? coefficient ((left : Int) - taken + n.exponent.getD 0)
  if n.negative then x.map Float.neg else x

/-- The number that a numeral stands for. -/
def toNumber? (n : Numeral) : Option Number :=
  let double := (n.double?.bind Finite.ofFloat?).map Number.double
  if n.fraction.isEmpty && n.exponent.isNone then
    let magnitude := number n.whole
    if n.negative then
      if 0 < magnitude ∧ magnitude ≤ 9223372036854775808 then
        (Integer.ofInt? (-magnitude)).map .integer
      else double
    else
      match Integer.ofInt? magnitude with
      | some m => some (.integer m)
      | none => double
  else double

/-- The digits at the front of a text, at least one. -/
def someDigits? (cs : List Char) : Option (List Char × List Char) :=
  match cs.takeWhile Char.isDigit with
  | [] => none
  | ds => some (ds, cs.dropWhile Char.isDigit)

/-- The whole part at the front of a text: a zero alone, or digits that start with none. -/
def whole? : List Char → Option (List Char × List Char)
  | '0' :: c :: rest => if c.isDigit then none else some (['0'], c :: rest)
  | cs => someDigits? cs

/-- The fraction at the front of a text, empty if there is no point. -/
def fraction? : List Char → Option (List Char × List Char)
  | '.' :: rest => someDigits? rest
  | cs => some ([], cs)

/-- The exponent at the front of a text, if there is one. -/
def exponent? : List Char → Option (Option Int × List Char)
  | c :: rest =>
    if c = 'e' ∨ c = 'E' then
      match rest with
      | '-' :: rest => (someDigits? rest).map fun (ds, rest) => (some (-(number ds : Int)), rest)
      | '+' :: rest => (someDigits? rest).map fun (ds, rest) => (some (number ds : Int), rest)
      | rest => (someDigits? rest).map fun (ds, rest) => (some (number ds : Int), rest)
    else some (none, c :: rest)
  | [] => some (none, [])

/-- The numeral at the front of a text. -/
def scan? (cs : List Char) : Option (Numeral × List Char) := do
  let (negative, cs) :=
    match cs with
    | '-' :: rest => (true, rest)
    | rest => (false, rest)
  let (whole, cs) ← whole? cs
  let (fraction, cs) ← fraction? cs
  let (exponent, cs) ← exponent? cs
  return (⟨negative, whole, fraction, exponent⟩, cs)

end Numeral

namespace Json

/-- The most containers around a value. -/
def deepest : Nat := 127

/-- The blanks between the parts of a document. -/
def isSpace (c : Char) : Bool := c = ' ' || c = '\t' || c = '\n' || c = '\r'

/-- The value of a hexadecimal digit. -/
def hexDigit? (c : Char) : Option Nat :=
  if '0' ≤ c ∧ c ≤ '9' then some (c.toNat - '0'.toNat)
  else if 'a' ≤ c ∧ c ≤ 'f' then some (c.toNat - 'a'.toNat + 10)
  else if 'A' ≤ c ∧ c ≤ 'F' then some (c.toNat - 'A'.toNat + 10)
  else none

/-- A code unit of four hexadecimal digits. -/
def codeUnit? : List Char → Option (Nat × List Char)
  | a :: b :: c :: d :: rest => do
    let a ← hexDigit? a
    let b ← hexDigit? b
    let c ← hexDigit? c
    let d ← hexDigit? d
    return (((a * 16 + b) * 16 + c) * 16 + d, rest)
  | _ => none

/-- A character written by one code unit, or by the two halves of a surrogate pair. -/
def unescape? (cs : List Char) : Option (Char × List Char) := do
  let (upper, cs) ← codeUnit? cs
  if 0xD800 ≤ upper ∧ upper < 0xDC00 then
    match cs with
    | '\\' :: 'u' :: cs =>
      let (lower, cs) ← codeUnit? cs
      if 0xDC00 ≤ lower ∧ lower < 0xE000 then
        return (Char.ofNat (0x10000 + (upper - 0xD800) * 0x400 + (lower - 0xDC00)), cs)
      else none
    | _ => none
  else if 0xDC00 ≤ upper ∧ upper < 0xE000 then none
  else return (Char.ofNat upper, cs)

/-- The characters up to the closing quote, still escaped, after those already seen. -/
def stringBody? : List Char → List Char → Option (List Char × List Char)
  | '"' :: rest, acc => some (acc.reverse, rest)
  | '\\' :: c :: rest, acc => stringBody? rest (c :: '\\' :: acc)
  | c :: rest, acc => stringBody? rest (c :: acc)
  | [], _ => none

/-- The characters that a string body writes, after those already read. The fuel bounds
their number. -/
def unescapeBody? : Nat → List Char → List Char → Option (List Char)
  | _, [], acc => some acc.reverse
  | 0, _, _ => none
  | fuel + 1, '\\' :: c :: rest, acc =>
    match c with
    | '"' => unescapeBody? fuel rest ('"' :: acc)
    | '\\' => unescapeBody? fuel rest ('\\' :: acc)
    | '/' => unescapeBody? fuel rest ('/' :: acc)
    | 'b' => unescapeBody? fuel rest ('\x08' :: acc)
    | 'f' => unescapeBody? fuel rest ('\x0c' :: acc)
    | 'n' => unescapeBody? fuel rest ('\n' :: acc)
    | 'r' => unescapeBody? fuel rest ('\r' :: acc)
    | 't' => unescapeBody? fuel rest ('\t' :: acc)
    | 'u' =>
      match unescape? rest with
      | some (c, rest) => unescapeBody? fuel rest (c :: acc)
      | none => none
    | _ => none
  | fuel + 1, c :: rest, acc =>
    if c.toNat < 0x20 then none else unescapeBody? fuel rest (c :: acc)

/-- The string after its opening quote. -/
def scanString? (cs : List Char) : Option (String × List Char) := do
  let (body, rest) ← stringBody? cs []
  let text ← unescapeBody? body.length body []
  return (String.ofList text, rest)

mutual

/-- The value at the front of a text, with room for `depth` containers around its parts. -/
def scan? : Nat → Nat → List Char → Option (Json × List Char)
  | 0, _, _ => none
  | fuel + 1, depth, cs =>
    match cs.dropWhile isSpace with
    | 'n' :: 'u' :: 'l' :: 'l' :: rest => some (null, rest)
    | 't' :: 'r' :: 'u' :: 'e' :: rest => some (bool true, rest)
    | 'f' :: 'a' :: 'l' :: 's' :: 'e' :: rest => some (bool false, rest)
    | '"' :: rest => (scanString? rest).map fun (s, rest) => (string s, rest)
    | '[' :: rest =>
      match depth with
      | 0 => none
      | depth + 1 =>
        match rest.dropWhile isSpace with
        | ']' :: rest => some (array [], rest)
        | rest => scanItems? fuel depth rest []
    | '\x7b' :: rest =>
      match depth with
      | 0 => none
      | depth + 1 =>
        match rest.dropWhile isSpace with
        | '\x7d' :: rest => some (object .empty, rest)
        | rest => scanMembers? fuel depth rest .empty
    | rest => do
      let (numeral, rest) ← Numeral.scan? rest
      let n ← numeral.toNumber?
      return (number n, rest)

/-- The items that remain of an array, after those already read. -/
def scanItems? : Nat → Nat → List Char → List Json → Option (Json × List Char)
  | 0, _, _, _ => none
  | fuel + 1, depth, cs, acc =>
    match scan? fuel depth cs with
    | none => none
    | some (x, rest) =>
      match rest.dropWhile isSpace with
      | ',' :: rest => scanItems? fuel depth rest (x :: acc)
      | ']' :: rest => some (array (x :: acc).reverse, rest)
      | _ => none

/-- The members that remain of an object, after those already read. -/
def scanMembers? : Nat → Nat → List Char → Dict Json → Option (Json × List Char)
  | 0, _, _, _ => none
  | fuel + 1, depth, cs, acc =>
    match cs.dropWhile isSpace with
    | '"' :: rest =>
      match scanString? rest with
      | none => none
      | some (k, rest) =>
        match rest.dropWhile isSpace with
        | ':' :: rest =>
          match scan? fuel depth rest with
          | none => none
          | some (x, rest) =>
            match rest.dropWhile isSpace with
            | ',' :: rest => scanMembers? fuel depth rest (acc.insert k x)
            | '\x7d' :: rest => some (object (acc.insert k x), rest)
            | _ => none
        | _ => none
    | _ => none

end

/-- The value that a text writes. Every container and every item takes up characters of its
own, so twice their number bounds the steps. -/
def parse? (s : String) : Option Json :=
  let cs := s.toList
  match scan? (2 * cs.length + 2) deepest cs with
  | some (x, rest) => if (rest.dropWhile isSpace).isEmpty then some x else none
  | none => none

end Json

end Instrumentation
