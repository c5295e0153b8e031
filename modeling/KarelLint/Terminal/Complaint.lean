import KarelLint.Diagnosis.Problem
import KarelLint.Storage.Loading
import KarelLint.Terminal.Style
import KarelLint.Text.Place

/-! Complaints on one line of a terminal. -/

set_option autoImplicit false

namespace KarelLint.Terminal

/-- The start of every complaint. -/
def label : String := red "error"

/-- A problem at a place of a file. Lines and columns are counted from one. -/
def headline (filename : String) (place : Text.Place) (problem : Diagnosis.Problem) : String :=
  label ++ ": " ++ filename ++ ":" ++ toString (place.line + 1) ++ ":" ++
    toString (place.column + 1) ++ " " ++ bold problem.message

/-- A file that could not be loaded. -/
def loadingLine (error : Storage.LoadingError) : String :=
  label ++ ": " ++ error.filename ++ ": " ++ bold error.message

end KarelLint.Terminal
