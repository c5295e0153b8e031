import KarelLint.Diagnosis.Problem
import KarelLint.Session.Range

/-! Problems as an editor shows them: as ranges of a text, counted in UTF-16 code units. -/

set_option autoImplicit false

namespace KarelLint.Session

open KarelLint.Diagnosis

/-- A message about a part of a text. -/
structure Diagnostic where
  range : Range
  message : String
  deriving DecidableEq, Repr

namespace Diagnostic

/-- The part of a text that a problem is about, from its offset over its width. A problem
of another text may lie outside this one. -/
def range? (text : List Char) (problem : Problem) : Option Range := do
  let start ← Text.unitPlace? text problem.offset
  let stop ← Text.unitPlace? text (problem.offset + problem.width)
  return ⟨start, stop⟩

/-- A problem as a message about the part of the text where it lies. -/
def ofProblem? (text : List Char) (problem : Problem) : Option Diagnostic :=
  (range? text problem).map (⟨·, problem.message⟩)

/-- The messages about the problems of a text, in their order. -/
def ofProblems (text : String) (problems : List Problem) : List Diagnostic :=
  problems.filterMap (ofProblem? text.toList)

end Diagnostic

end KarelLint.Session
