import KarelLint.Json.Value

/-! JSON values as text, on one line. -/

set_option autoImplicit false

namespace KarelLint.Json

/-- The four hexadecimal digits of a code point below U+10000. -/
def hexDigits (point : Nat) : List Char :=
  [4096, 256, 16, 1].map fun place => Nat.digitChar (point / place % 16)

/-- Characters that end a line for some readers. They are escaped beside those that JSON
wants escaped, so that a written value is one line for every reader. -/
def isLineBreak (c : Char) : Bool :=
  c == '\u0085' || c == '\u2028' || c == '\u2029'

/-- A character as it stands inside the quotes of a string. -/
def escape (c : Char) : List Char :=
  if c == '"' || c == '\\' then ['\\', c]
  else if c == '\n' then ['\\', 'n']
  else if c == '\r' then ['\\', 'r']
  else if c == '\t' then ['\\', 't']
  else if c.toNat < 0x20 || isLineBreak c then '\\' :: 'u' :: hexDigits c.toNat
  else [c]

/-- A string in quotes. -/
def quote (text : String) : String :=
  "\"" ++ String.ofList (text.toList.flatMap escape) ++ "\""

mutual

/-- A value as text. -/
def write : Json → String
  | null => "null"
  | bool true => "true"
  | bool false => "false"
  | int value => toString value
  | decimal mantissa exponent => toString mantissa ++ "e" ++ toString exponent
  | str value => quote value
  | arr items => "[" ++ ",".intercalate (writeItems items) ++ "]"
  | obj members => "\x7b" ++ ",".intercalate (writeMembers members) ++ "\x7d"

/-- The items of an array as texts. -/
def writeItems : List Json → List String
  | [] => []
  | item :: later => write item :: writeItems later

/-- The members of an object as texts. -/
def writeMembers : List (String × Json) → List String
  | [] => []
  | (key, value) :: later => (quote key ++ ":" ++ write value) :: writeMembers later

end

end KarelLint.Json
