import KarelLint.Json.Value

/-! Records in JSON. A record has named fields in a fixed order. It is written as an object,
whose other members do not matter, or as an array of the values of its fields. The array has
all fields, up to some at the end that a record may declare to be spare. -/

set_option autoImplicit false

namespace KarelLint.Json

/-- Values under names. -/
abbrev Members := List (String × Json)

/-- The fields of a record with the given names, followed by spare ones. -/
def extended? (names spare : List String) : Json → Option Members
  | obj members => some members
  | arr items =>
      let all := names ++ spare
      if names.length ≤ items.length ∧ items.length ≤ all.length then some (all.zip items)
      else none
  | _ => none

/-- The fields of a record with the given names. -/
def record? (names : List String) : Json → Option Members :=
  extended? names []

/-- The members of a record that is written as an object. -/
def object? : Json → Option Members
  | obj members => some members
  | _ => none

/-- A field that must be there. -/
def required? {α : Type} (name : String) (read : Json → Option α)
    (fields : Members) : Option α :=
  (fields.lookup name).bind read

/-- A value for which `null` stands if there is none. -/
def nullable? {α : Type} (read : Json → Option α) : Json → Option (Option α)
  | null => some none
  | value => (read value).map some

/-- A field that may be missing or `null`. -/
def optional? {α : Type} (name : String) (read : Json → Option α)
    (fields : Members) : Option (Option α) :=
  match fields.lookup name with
  | none => some none
  | some value => nullable? read value

/-- The items of an array, each read in the same way. -/
def list? {α : Type} (read : Json → Option α) : Json → Option (List α)
  | arr items => items.mapM read
  | _ => none

/-- A value of one of two kinds. -/
def either? {α β : Type} (left : Json → Option α) (right : Json → Option β) (value : Json) :
    Option (α ⊕ β) :=
  (left value).map .inl <|> (right value).map .inr

/-- A word of a fixed vocabulary. It is written as a string, or as an object whose only member
has the word as its key and no value. -/
def word? : Json → Option String
  | str word => some word
  | obj [(word, null)] => some word
  | _ => none

/-- One of some words. -/
def oneOf? (words : List String) (value : Json) : Option String :=
  value.word?.filter words.contains

/-- A field of a record, and the check of its value. -/
structure Field where
  name : String
  check : Members → Bool

namespace Field

/-- A field that must be there. -/
def required {α : Type} (name : String) (read : Json → Option α) : Field where
  name := name
  check fields := (required? name read fields).isSome

/-- A field that may be missing or `null`. -/
def optional {α : Type} (name : String) (read : Json → Option α) : Field where
  name := name
  check fields := (optional? name read fields).isSome

end Field

/-- The fields of a record, followed by spare ones, whose values all pass their checks. -/
def checkedWith? (fields spare : List Field) (value : Json) : Option Members :=
  (value.extended? (fields.map Field.name) (spare.map Field.name)).filter fun found =>
    (fields ++ spare).all (·.check found)

/-- The fields of a record whose values all pass their checks. -/
def checked? (fields : List Field) : Json → Option Members :=
  checkedWith? fields []

end KarelLint.Json
