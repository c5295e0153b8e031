import KarelLint.Text.Decimal

/-! JSON values. -/

set_option autoImplicit false

namespace KarelLint

/-- A JSON value. Numbers written without a fraction and without an exponent are kept
apart from the others, since readers of integers accept only those. -/
inductive Json where
  | null
  | bool (value : Bool)
  | int (value : Int)
  /-- The number `mantissa * 10 ^ exponent`, written with a fraction or an exponent. -/
  | decimal (mantissa exponent : Int)
  | str (value : String)
  | arr (items : List Json)
  /-- The members in the order in which they are written. Each key occurs once. -/
  | obj (members : List (String × Json))
  deriving Repr, Inhabited

namespace Json

/-- The member of an object. Other values have no members. -/
def member? (key : String) : Json → Option Json
  | obj members => members.lookup key
  | _ => none

/-- The text of a string. -/
def str? : Json → Option String
  | str value => some value
  | _ => none

/-- A truth value. -/
def bool? : Json → Option Bool
  | bool value => some value
  | _ => none

/-- An integer between two bounds, both included. -/
def intWithin? (low high : Int) : Json → Option Int
  | int value => if low ≤ value ∧ value ≤ high then some value else none
  | _ => none

/-- A signed integer of 32 bits. -/
def int32? (value : Json) : Option Int :=
  value.intWithin? (-2147483648) 2147483647

/-- A natural number of 32 bits. -/
def nat32? (value : Json) : Option Nat :=
  (value.intWithin? 0 4294967295).map Int.toNat

/-- A natural number of 64 bits. -/
def nat64? (value : Json) : Option Nat :=
  (value.intWithin? 0 Text.maxWord64).map Int.toNat

/-- An object with the members that have a value. -/
def ofOptions (members : List (String × Option Json)) : Json :=
  obj (members.filterMap fun (key, value) => value.map (key, ·))

end Json

end KarelLint
