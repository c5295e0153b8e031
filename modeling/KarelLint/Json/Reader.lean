import KarelLint.Json.Value
import KarelLint.Text.Decimal

/-! JSON values read from text: first as a list of tokens, then as a value. -/

set_option autoImplicit false

namespace KarelLint.Json

/-- The smallest parts of a JSON text. -/
inductive Token where
  | arrayStart
  | arrayEnd
  | objectStart
  | objectEnd
  | comma
  | colon
  | text (value : String)
  /-- A number, a truth value or `null`. -/
  | atom (value : Json)
  deriving Repr

/-- White space between tokens. -/
def isSpace (c : Char) : Bool :=
  c == ' ' || c == '\t' || c == '\n' || c == '\r'

/-- The value of a hexadecimal digit. -/
def hexDigit? (c : Char) : Option Nat :=
  if c.isDigit then some (c.toNat - '0'.toNat)
  else if 'a' ≤ c ∧ c ≤ 'f' then some (c.toNat - 'a'.toNat + 10)
  else if 'A' ≤ c ∧ c ≤ 'F' then some (c.toNat - 'A'.toNat + 10)
  else none

/-- The UTF-16 code unit of four hexadecimal digits. -/
def unit? (a b c d : Char) : Option Nat := do
  return (((← hexDigit? a) * 16 + (← hexDigit? b)) * 16 + (← hexDigit? c)) * 16 + (← hexDigit? d)

/-- The character of a code unit that is not half of a pair. -/
def single? (unit : Nat) : Option Char :=
  if unit < 0xD800 ∨ 0xE000 ≤ unit then some (Char.ofNat unit) else none

/-- The character of a pair of code units. -/
def pair? (high low : Nat) : Option Char :=
  if 0xD800 ≤ high ∧ high < 0xDC00 ∧ 0xDC00 ≤ low ∧ low < 0xE000 then
    some (Char.ofNat (0x10000 + (high - 0xD800) * 0x400 + (low - 0xDC00)))
  else none

/-- The character that a letter stands for after a backslash. -/
def escaped? : Char → Option Char
  | '"' => some '"'
  | '\\' => some '\\'
  | '/' => some '/'
  | 'b' => some '\x08'
  | 'f' => some '\x0c'
  | 'n' => some '\n'
  | 'r' => some '\r'
  | 't' => some '\t'
  | _ => none

/-- The characters up to the closing quote of a string, and how many characters of the text
they take, the quote included. -/
def stringBody? : List Char → Option (List Char × Nat)
  | [] => none
  | '"' :: _ => some ([], 1)
  | '\\' :: 'u' :: a :: b :: c :: d :: '\\' :: 'u' :: e :: f :: g :: h :: rest => do
      let first ← unit? a b c d
      match single? first with
      | some char =>
          let (body, used) ← stringBody? ('\\' :: 'u' :: e :: f :: g :: h :: rest)
          return (char :: body, used + 6)
      | none =>
          let char ← pair? first (← unit? e f g h)
          let (body, used) ← stringBody? rest
          return (char :: body, used + 12)
  | '\\' :: 'u' :: a :: b :: c :: d :: rest => do
      let char ← single? (← unit? a b c d)
      let (body, used) ← stringBody? rest
      return (char :: body, used + 6)
  | '\\' :: letter :: rest => do
      let char ← escaped? letter
      let (body, used) ← stringBody? rest
      return (char :: body, used + 2)
  | c :: rest =>
      if c == '\\' || c.toNat < 0x20 then none
      else (stringBody? rest).map fun (body, used) => (c :: body, used + 1)

/-- Decimal digits, which must not be missing, and the text after them. -/
def digits? (text : List Char) : Option (List Char × List Char) :=
  match text.takeWhile Char.isDigit with
  | [] => none
  | digits => some (digits, text.dropWhile Char.isDigit)

/-- The digits before the point. Only the number zero starts with a zero. -/
def wholePart? (text : List Char) : Option (List Char × List Char) := do
  let (digits, rest) ← digits? text
  guard (digits.length = 1 ∨ digits.head? ≠ some '0')
  return (digits, rest)

/-- The digits after the point, if there is one. -/
def fraction? : List Char → Option (Option (List Char) × List Char)
  | '.' :: rest => (digits? rest).map fun (digits, rest) => (some digits, rest)
  | text => some (none, text)

/-- The sign at the start of an exponent, and the text after it. -/
def exponentSign : List Char → Int × List Char
  | '+' :: rest => (1, rest)
  | '-' :: rest => (-1, rest)
  | text => (1, text)

/-- The exponent, if there is one. -/
def exponent? : List Char → Option (Option Int × List Char)
  | mark :: rest =>
      if mark == 'e' || mark == 'E' then
        let (sign, rest) := exponentSign rest
        (digits? rest).map fun (digits, rest) => (some (sign * Text.decimalValue digits), rest)
      else some (none, mark :: rest)
  | [] => some (none, [])

/-- The value of a number from its parts. Negative zero is no integer. -/
def number (negative : Bool) (whole : List Char) (fraction : Option (List Char))
    (exponent : Option Int) : Json :=
  let mantissa : Nat := Text.decimalValue (whole ++ fraction.getD [])
  let signed : Int := if negative then -(mantissa : Int) else mantissa
  if fraction.isNone ∧ exponent.isNone ∧ ¬(negative ∧ mantissa = 0) then int signed
  else decimal signed (exponent.getD 0 - (fraction.getD []).length)

/-- The number at the start of a text, and the text after it. -/
def number? (text : List Char) : Option (Json × List Char) := do
  let (negative, unsigned) := match text with
    | '-' :: rest => (true, rest)
    | _ => (false, text)
  let (whole, rest) ← wholePart? unsigned
  let (fraction, rest) ← fraction? rest
  let (exponent, rest) ← exponent? rest
  return (number negative whole fraction exponent, rest)

/-- The token at the start of a text, and how many characters it has after its first. -/
def token? : List Char → Option (Token × Nat)
  | '[' :: _ => some (.arrayStart, 0)
  | ']' :: _ => some (.arrayEnd, 0)
  | '\x7b' :: _ => some (.objectStart, 0)
  | '\x7d' :: _ => some (.objectEnd, 0)
  | ',' :: _ => some (.comma, 0)
  | ':' :: _ => some (.colon, 0)
  | '"' :: rest => (stringBody? rest).map fun (body, used) => (.text (String.ofList body), used)
  | 'n' :: 'u' :: 'l' :: 'l' :: _ => some (.atom null, 3)
  | 't' :: 'r' :: 'u' :: 'e' :: _ => some (.atom (bool true), 3)
  | 'f' :: 'a' :: 'l' :: 's' :: 'e' :: _ => some (.atom (bool false), 4)
  | text => (number? text).map fun (value, rest) => (.atom value, text.length - rest.length - 1)

/-- The tokens of a text. The first `skip` characters belong to a token already read. -/
def tokensFrom? (skip : Nat) : List Char → Option (List Token)
  | [] => some []
  | c :: rest =>
      match skip with
      | skip + 1 => tokensFrom? skip rest
      | 0 =>
          if isSpace c then tokensFrom? 0 rest
          else do
            let (token, more) ← token? (c :: rest)
            let later ← tokensFrom? more rest
            return token :: later

/-- Add a member to an object. The last one with a key counts. -/
def addMember (members : List (String × Json)) (key : String) (value : Json) :
    List (String × Json) :=
  members.filter (·.1 != key) ++ [(key, value)]

mutual

/-- The value at the start of some tokens, and the tokens after it. The fuel bounds the
number of values and separators that are read. -/
def valueFrom? : Nat → List Token → Option (Json × List Token)
  | 0, _ => none
  | fuel + 1, tokens =>
      match tokens with
      | .atom value :: rest => some (value, rest)
      | .text value :: rest => some (str value, rest)
      | .arrayStart :: .arrayEnd :: rest => some (arr [], rest)
      | .arrayStart :: rest => itemsFrom? fuel [] rest
      | .objectStart :: .objectEnd :: rest => some (obj [], rest)
      | .objectStart :: rest => membersFrom? fuel [] rest
      | _ => none

/-- The further items of an array of which `items` were read, in reverse. -/
def itemsFrom? : Nat → List Json → List Token → Option (Json × List Token)
  | 0, _, _ => none
  | fuel + 1, items, tokens => do
      let (item, rest) ← valueFrom? fuel tokens
      match rest with
      | .comma :: rest => itemsFrom? fuel (item :: items) rest
      | .arrayEnd :: rest => some (arr (item :: items).reverse, rest)
      | _ => none

/-- The further members of an object of which `members` were read. -/
def membersFrom? : Nat → List (String × Json) → List Token → Option (Json × List Token)
  | 0, _, _ => none
  | fuel + 1, members, tokens =>
      match tokens with
      | .text key :: .colon :: rest => do
          let (value, rest) ← valueFrom? fuel rest
          match rest with
          | .comma :: rest => membersFrom? fuel (addMember members key value) rest
          | .objectEnd :: rest => some (obj (addMember members key value), rest)
          | _ => none
      | _ => none

end

/-- The value that a text writes. Every value and separator takes a token, so twice the
number of tokens is fuel enough. -/
def parse? (text : String) : Option Json := do
  let tokens ← tokensFrom? 0 text.toList
  match valueFrom? (2 * tokens.length + 1) tokens with
  | some (value, []) => some value
  | _ => none

end KarelLint.Json
