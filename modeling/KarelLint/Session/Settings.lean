import KarelLint.Json.Value

/-! What a user can set. -/

set_option autoImplicit false

namespace KarelLint.Session

/-- How many problems of each category are reported where nothing else is set. -/
def defaultLimit : Nat := 1000

/-- What a user can set: how many problems of each category are reported. -/
structure Settings where
  limit : Nat := defaultLimit
  deriving DecidableEq, Repr, Inhabited

namespace Settings

/-- The limit that a JSON value sets, an integer of at most 64 bits. An object sets it under
one of two keys, and not under both; an array sets it as its only item. -/
def limit? : Json → Option Nat
  | .obj members =>
      match members.lookup "maxNumberOfProblems", members.lookup "maxDiagnostics" with
      | some value, none => value.nat64?
      | none, some value => value.nat64?
      | _, _ => none
  | .arr [value] => value.nat64?
  | _ => none

/-- The settings that a JSON value holds. A value that sets no limit leaves the default. -/
def ofJson (value : Json) : Settings where
  limit := (limit? value).getD defaultLimit

end Settings

end KarelLint.Session
