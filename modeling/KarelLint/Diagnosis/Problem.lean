/-! What can be wrong with a program. -/

set_option autoImplicit false

namespace KarelLint.Diagnosis

/-- A reason to complain about a character or a name. -/
inductive Fault where
  /-- A character that programs may not contain. -/
  | illegalCharacter (char : Char)
  /-- A declaration of a procedure that was declared before. -/
  | alreadyDefined (name : String)
  /-- A declaration of a procedure with a reserved name. -/
  | reservedWord (name : String)
  /-- A call with an argument of a procedure without a parameter. -/
  | unexpectedParameter (name : String)
  /-- A call without an argument of a procedure with a parameter. -/
  | missingParameter (name : String)
  /-- An instruction with an argument. -/
  | instructionParameter (name : String)
  /-- A call with several arguments of a procedure with a parameter. -/
  | tooManyParameters (name : String)
  /-- A call of a procedure that is not declared. -/
  | undeclared (name : String)
  deriving DecidableEq, Repr

/-- The two kinds of problems, each of which is limited on its own. -/
inductive Category where
  | declarations
  | calls
  deriving DecidableEq, Repr

namespace Fault

/-- The name that a fault is about. -/
def name? : Fault → Option String
  | illegalCharacter _ => none
  | alreadyDefined name | reservedWord name | unexpectedParameter name
  | missingParameter name | instructionParameter name | tooManyParameters name
  | undeclared name => some name

/-- The kind of problem that a fault makes. -/
def category : Fault → Category
  | illegalCharacter _ | alreadyDefined _ | reservedWord _ => .declarations
  | unexpectedParameter _ | missingParameter _ | instructionParameter _
  | tooManyParameters _ | undeclared _ => .calls

/-- A fault in one sentence. -/
def message : Fault → String
  | illegalCharacter char => s!"Illegal character '{char}'"
  | alreadyDefined name => s!"Procedure '{name}' is already defined"
  | reservedWord name => s!"'{name}' is a reserved word, cannot be used as a procedure name"
  | unexpectedParameter name => s!"Procedure '{name}' does not expect parameters"
  | missingParameter name => s!"Procedure '{name}' expects a parameter"
  | instructionParameter name => s!"'{name}' is an instruction, instructions take no parameters"
  | tooManyParameters name =>
      s!"'{name}' is given more than one parameter, procedures take at most one"
  | undeclared name => s!"Procedure '{name}' is not declared"

end Fault

/-- A fault at a byte offset of a text. -/
structure Problem where
  offset : Nat
  fault : Fault
  deriving DecidableEq, Repr

namespace Problem

/-- The number of bytes of the name that a problem is about. A problem with a character
marks a place only. -/
def width (problem : Problem) : Nat :=
  match problem.fault.name? with
  | some name => name.utf8ByteSize
  | none => 0

/-- The kind of a problem. -/
def category (problem : Problem) : Category :=
  problem.fault.category

/-- A problem in one sentence. -/
def message (problem : Problem) : String :=
  problem.fault.message

end Problem

end KarelLint.Diagnosis
