import KarelLint.Json.Record
import KarelLint.Text.Place

/-! Parts of a document, and how an editor writes them. -/

set_option autoImplicit false

namespace KarelLint.Session

/-- A part of a text between two places. -/
structure Range where
  start : Text.Place
  stop : Text.Place
  deriving DecidableEq, Repr

namespace Range

/-- Read a place. -/
def place? (value : Json) : Option Text.Place := do
  let fields ← value.record? ["line", "character"]
  return {
    line := ← Json.required? "line" Json.nat32? fields
    column := ← Json.required? "character" Json.nat32? fields }

/-- Read a range. -/
def ofJson? (value : Json) : Option Range := do
  let fields ← value.record? ["start", "end"]
  return {
    start := ← Json.required? "start" place? fields
    stop := ← Json.required? "end" place? fields }

/-- Write a place. -/
def placeJson (place : Text.Place) : Json :=
  .obj [("line", .int place.line), ("character", .int place.column)]

/-- Write a range. -/
def toJson (range : Range) : Json :=
  .obj [("start", placeJson range.start), ("end", placeJson range.stop)]

end Range

end KarelLint.Session
