import Instrumentation.Condition.Token
import Instrumentation.Decimal.Nearest
import Instrumentation.Error

/-!
# The tokens of a text

At each place the longest token is taken; blanks between tokens are the five of ASCII. The
pieces that are taken, blanks included, make up the whole text, and the list of tokens ends with
the end marker at the length of the text in bytes.
-/

namespace Instrumentation.Condition

/-- The blanks between tokens. -/
def isBlank (c : Char) : Bool :=
  c = ' ' || c = '\t' || c = '\n' || c = '\x0c' || c = '\r'

/-- The characters of words. -/
def isWordChar (c : Char) : Bool := c.isAlphanum || c = '_' || c = '@' || c = '$'

/-- The length of a text in bytes. -/
def byteLength : List Char → Nat
  | [] => 0
  | c :: cs => c.utf8Size + byteLength cs

/-- A reason to refuse the text at some place. -/
inductive Refusal where
  /-- No token starts with this character. -/
  | unexpected (c : Char)
  /-- The text ends within quotes. -/
  | unterminated
deriving DecidableEq

/-- The wording of a refusal. -/
def Refusal.message : Refusal → String
  | unexpected c => "unexpected character '" ++ String.singleton c ++ "'"
  | unterminated => "unterminated string"

/-- A token at the front of a text. -/
structure Piece where
  /-- The token. -/
  token : Token
  /-- The characters that it takes up. -/
  text : List Char
  /-- The characters after it. -/
  rest : List Char

/-- The token of a word: a keyword or a name. -/
def wordToken (word : List Char) : Token :=
  match String.ofList word with
  | "true" => .yes
  | "false" => .no
  | "null" => .nothing
  | "and" => .and
  | "or" => .or
  | "not" => .not
  | name => .ident name

/-- The number that digits write. -/
def numberOf (ds : List Char) : Nat := ds.foldl (fun n c => 10 * n + (c.toNat - '0'.toNat)) 0

/-- The token of digits with a fraction, which may be empty. -/
def numberToken (whole fraction : List Char) : Token :=
  let n := numberOf whole
  if fraction.isEmpty && n < 9223372036854775808 then .int n
  else .float (Decimal.nearest (numberOf (whole ++ fraction)) fraction.length)

/-- The word at the front of a text. -/
def scanWord (cs : List Char) : Piece :=
  let word := cs.takeWhile isWordChar
  { token := wordToken word, text := word, rest := cs.dropWhile isWordChar }

/-- The number at the front of a text. A point belongs to it if a digit follows. -/
def scanNumber (cs : List Char) : Piece :=
  let whole := cs.takeWhile Char.isDigit
  let rest := cs.dropWhile Char.isDigit
  let plain : Piece := { token := numberToken whole [], text := whole, rest }
  match rest with
  | '.' :: d :: tail =>
    if d.isDigit then
      let fraction := (d :: tail).takeWhile Char.isDigit
      { token := numberToken whole fraction
        text := whole ++ '.' :: fraction
        rest := (d :: tail).dropWhile Char.isDigit }
    else plain
  | _ => plain

/-- The character that an escaped character stands for. -/
def unescape (c : Char) : Char :=
  if c = 'n' then '\n' else if c = 't' then '\t' else if c = 'r' then '\r' else c

/-- The text up to a closing quote: what it stands for, the characters it takes up with the
quote, and the rest. -/
def scanQuoted (quote : Char) : List Char → Option (List Char × List Char × List Char)
  | [] => none
  | c :: cs =>
    if c = quote then some ([], [c], cs)
    else if c = '\\' then
      match cs with
      | [] => none
      | e :: rest =>
        (scanQuoted quote rest).map fun (value, text, rest) =>
          (unescape e :: value, c :: e :: text, rest)
    else
      (scanQuoted quote cs).map fun (value, text, rest) => (c :: value, c :: text, rest)

/-- The string at the front of a text, after its opening quote. -/
def scanString (quote : Char) (cs : List Char) : Except Refusal Piece :=
  match scanQuoted quote cs with
  | some (value, text, rest) =>
    .ok { token := .str (String.ofList value), text := quote :: text, rest }
  | none => .error .unterminated

/-- A mark of one character. -/
def single (token : Token) (c : Char) (rest : List Char) : Except Refusal Piece :=
  .ok { token, text := [c], rest }

/-- A mark of two characters. -/
def double (token : Token) (c d : Char) (rest : List Char) : Except Refusal Piece :=
  .ok { token, text := [c, d], rest }

/-- The token at the front of a text that starts with `c`, no blank. -/
def scan (c : Char) (cs : List Char) : Except Refusal Piece :=
  match c, cs with
  | '(', cs => single .lparen c cs
  | ')', cs => single .rparen c cs
  | '[', cs => single .lbracket c cs
  | ']', cs => single .rbracket c cs
  | '.', cs => single .dot c cs
  | '+', cs => single .plus c cs
  | '-', cs => single .minus c cs
  | '*', cs => single .star c cs
  | '/', cs => single .slash c cs
  | '%', cs => single .percent c cs
  | '=', '=' :: rest => double .eq c '=' rest
  | '!', '=' :: rest => double .ne c '=' rest
  | '!', cs => single .not c cs
  | '<', '=' :: rest => double .le c '=' rest
  | '<', cs => single .lt c cs
  | '>', '=' :: rest => double .ge c '=' rest
  | '>', cs => single .gt c cs
  | '&', '&' :: rest => double .and c '&' rest
  | '|', '|' :: rest => double .or c '|' rest
  | c, cs =>
    if c = '"' ∨ c = '\x27' then scanString c cs
    else if c.isDigit then .ok (scanNumber (c :: cs))
    else if isWordChar c then .ok (scanWord (c :: cs))
    else .error (.unexpected c)

/-- The tokens of a text that starts at a byte offset. The fuel bounds the number of its
characters. -/
def lexemesFrom : Nat → Nat → List Char → Except ConditionError (List Lexeme)
  | _, offset, [] => .ok [⟨.finish, offset⟩]
  | 0, offset, _ :: _ => .ok [⟨.finish, offset⟩]
  | fuel + 1, offset, c :: cs =>
    if isBlank c then lexemesFrom fuel (offset + c.utf8Size) cs
    else
      match scan c cs with
      | .error refusal => .error (.malformed offset refusal.message)
      | .ok piece => do
        let rest ← lexemesFrom fuel (offset + byteLength piece.text) piece.rest
        return ⟨piece.token, offset⟩ :: rest

/-- The tokens of a text. -/
def tokenize (source : String) : Except ConditionError (List Lexeme) :=
  lexemesFrom source.length 0 source.toList

end Instrumentation.Condition
