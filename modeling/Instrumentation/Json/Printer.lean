import Instrumentation.Json
import Instrumentation.Decimal.Shortest
import Instrumentation.Text.Quoted

/-!
# The compact text of a JSON value

No blanks, members in key order, the fewest digits of a double that read back, and only those
characters escaped that have to be.
-/

namespace Instrumentation.Json

/-- Doubles are written out for leading powers of ten from -5 to 15, and with a signed
exponent otherwise. Of two numerals equally near, the one with an even last digit is taken. -/
def numerals : Decimal.Layout := { tie := .even, outFrom := -5, outBelow := 16, plus := true }

/-- A code unit in four hexadecimal digits. -/
def fourHex (n : Nat) : List Char :=
  let ds := Text.hexadecimal n
  List.replicate (4 - ds.length) '0' ++ ds

/-- One character of a string. -/
def escape (c : Char) : List Char :=
  if c = '"' then ['\\', '"']
  else if c = '\\' then ['\\', '\\']
  else if c = '\x08' then ['\\', 'b']
  else if c = '\x0c' then ['\\', 'f']
  else if c = '\n' then ['\\', 'n']
  else if c = '\r' then ['\\', 'r']
  else if c = '\t' then ['\\', 't']
  else if c.toNat < 0x20 then '\\' :: 'u' :: fourHex c.toNat
  else [c]

/-- A string between quotes. -/
def quote (s : String) : String :=
  String.ofList ('"' :: (s.toList.flatMap escape ++ ['"']))

/-- The digits of a number. -/
def numeral : Number → String
  | .integer n => String.ofList (Decimal.signed false n.val)
  | .double x => Decimal.ofFloat numerals x.val

mutual

/-- The text of a value. -/
def compress : Json → String
  | null => "null"
  | bool b => if b then "true" else "false"
  | number n => numeral n
  | string s => quote s
  | array xs => "[" ++ compressItems xs ++ "]"
  | object ⟨ms⟩ => "\x7b" ++ compressMembers ms ++ "\x7d"
termination_by structural v => v

/-- The texts of the items with commas between them. -/
def compressItems : List Json → String
  | [] => ""
  | [x] => compress x
  | x :: xs => compress x ++ "," ++ compressItems xs
termination_by structural xs => xs

/-- The texts of the members with commas between them. -/
def compressMembers {low : Option String} : Chain Json low → String
  | .nil => ""
  | .cons k _ x .nil => quote k ++ ":" ++ compress x
  | .cons k _ x ms => quote k ++ ":" ++ compress x ++ "," ++ compressMembers ms
termination_by structural ms => ms

end

end Instrumentation.Json
