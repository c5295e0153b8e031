/-! Numbers written in decimal digits. -/

set_option autoImplicit false

namespace KarelLint.Text

/-- The number that decimal digits write. No digits write zero. -/
def decimalValue (digits : List Char) : Nat :=
  digits.foldl (fun value digit => value * 10 + (digit.toNat - '0'.toNat)) 0

/-- One or more decimal digits. -/
def isDecimal (text : List Char) : Bool :=
  !text.isEmpty && text.all Char.isDigit

/-- The number that a text writes in decimal digits. -/
def decimal? (text : List Char) : Option Nat :=
  if isDecimal text then some (decimalValue text) else none

/-- The greatest number of 64 bits. -/
def maxWord64 : Nat := 18446744073709551615

end KarelLint.Text
