import KarelLint.Diagnosis.Explanation
import KarelLint.Terminal.Complaint

/-! Problems as a terminal shows them: on one line, or with the line of the program where
they lie and an explanation. -/

set_option autoImplicit false

namespace KarelLint.Terminal

open KarelLint.Diagnosis

/-- A line of a program with a mark under one of its characters. -/
structure Excerpt where
  place : Text.Place
  code : String
  deriving DecidableEq, Repr

namespace Excerpt

/-- The line of a place. There is none after the last line feed of a text, where a question
mark stands for it. -/
def ofPlace (text : List Char) (place : Text.Place) : Excerpt where
  place
  code := ((Text.lines text)[place.line]?.map String.ofList).getD "?"

/-- The number of the line, counted from one. -/
def lineNumber (excerpt : Excerpt) : String :=
  toString (excerpt.place.line + 1)

/-- The width of the column of line numbers. -/
def gutter (excerpt : Excerpt) : Nat :=
  max 3 excerpt.lineNumber.length

/-- What stands between the line numbers and the program. -/
def bar : String := blue "|"

/-- The empty line above the program. -/
def topLine (excerpt : Excerpt) : String :=
  spaces excerpt.gutter ++ " " ++ bar

/-- The line of the program. -/
def codeLine (excerpt : Excerpt) : String :=
  blue (alignRight excerpt.gutter excerpt.lineNumber) ++ " " ++ bar ++ " " ++ excerpt.code

/-- The line with the mark. -/
def caretLine (excerpt : Excerpt) : String :=
  spaces excerpt.gutter ++ " " ++ bar ++ " " ++ red (alignRight (excerpt.place.column + 1) "^")

/-- The three lines of an excerpt. -/
def render (excerpt : Excerpt) : String :=
  excerpt.topLine ++ "\n" ++ excerpt.codeLine ++ "\n" ++ excerpt.caretLine

end Excerpt

/-- A problem of a text on one line. -/
def concise? (filename : String) (text : List Char) (problem : Problem) : Option String := do
  let place ← Text.characterPlace? text problem.offset
  return headline filename place problem

/-- A problem of a text with an excerpt and an explanation. -/
def full? (filename : String) (text : List Char) (problem : Problem) : Option String := do
  let place ← Text.characterPlace? text problem.offset
  return headline filename place problem ++ "\n\n" ++ (Excerpt.ofPlace text place).render ++
    "\n\n" ++ problem.fault.explanation

/-- The two ways to show a problem. -/
inductive Detail where
  | concise
  | full
  deriving DecidableEq, Repr

/-- A problem of a text, in one of two ways. -/
def show? : Detail → String → List Char → Problem → Option String
  | .concise => concise?
  | .full => full?

end KarelLint.Terminal
