import KarelLint.Diagnosis.Problem
import KarelLint.Source.Alphabet
import KarelLint.Source.Call
import KarelLint.Source.Declaration
import KarelLint.Source.SymbolTable

/-! The check of a whole program. It looks at the characters, then at the declarations,
which give the table of procedures, then at the calls. -/

set_option autoImplicit false

namespace KarelLint.Diagnosis

open KarelLint.Source

/-- The problems with the characters of a text. -/
def characterProblems (text : String) : List Problem :=
  (illegal text).map fun (offset, char) => ⟨offset, .illegalCharacter char⟩

/-- The procedure that a declaration declares. -/
def declared (declaration : Declaration) : Symbol where
  name := declaration.name
  arity := if declaration.parameter.isSome then .unary else .nullary
  offset := declaration.offset

/-- Why a declaration cannot be entered in a table. -/
def rejection? (table : SymbolTable) (declaration : Declaration) : Option Fault :=
  if table.contains declaration.name then some (.alreadyDefined declaration.name)
  else if isReserved declaration.name then some (.reservedWord declaration.name)
  else none

/-- Enter declarations in a table, one after the other, and collect the problems with
those that it does not take. -/
def enterAll (table : SymbolTable) : List Declaration → SymbolTable × List Problem
  | [] => (table, [])
  | declaration :: later =>
      match rejection? table declaration with
      | some fault =>
          let (final, problems) := enterAll table later
          (final, ⟨declaration.offset, fault⟩ :: problems)
      | none => enterAll (table.insert (declared declaration)).1 later

/-- The table of some declarations and the problems with them. -/
def tabulate (declarations : List Declaration) : SymbolTable × List Problem :=
  enterAll ∅ declarations

/-- What is wrong with a call of a declared procedure. -/
def arityFault? (arity : Arity) (call : Call) : Option Fault :=
  match arity, call.argumentCount with
  | .nullary, 0 => none
  | .nullary, _ + 1 => some (.unexpectedParameter call.name)
  | .unary, 0 => some (.missingParameter call.name)
  | .unary, 1 => none
  | .unary, _ + 2 => some (.tooManyParameters call.name)

/-- What is wrong with a call. -/
def callFault? (table : SymbolTable) (call : Call) : Option Fault :=
  match table.get? call.name with
  | some symbol => arityFault? symbol.arity call
  | none =>
      if isInstruction call.name then
        if call.hasArguments then some (.instructionParameter call.name) else none
      else if isKeyword call.name then none
      else some (.undeclared call.name)

/-- Whether what reads as a call is the parameter list of a declaration. -/
def isParameterList (declarations : List Declaration) (call : Call) : Bool :=
  declarations.any fun declaration =>
    declaration.parenthesized && declaration.offset == call.offset

/-- The problem with a call that is not the parameter list of a declaration. -/
def callProblem? (declarations : List Declaration) (table : SymbolTable) (call : Call) :
    Option Problem :=
  if isParameterList declarations call then none
  else (callFault? table call).map fun fault => ⟨call.offset, fault⟩

/-- The problems with some calls. -/
def callProblems (declarations : List Declaration) (calls : List Call) (table : SymbolTable) :
    List Problem :=
  calls.filterMap (callProblem? declarations table)

/-- The result of a check. -/
structure Report where
  table : SymbolTable
  problems : List Problem

/-- Check a program. At most `limit` problems with characters and declarations are
reported, and at most `limit` problems with calls. -/
def check (text : String) (limit : Nat) : Report :=
  let declarations := declarations text
  let illegal := (characterProblems text).take limit
  let (table, rejected) := tabulate declarations
  let misused := callProblems declarations (calls text) table
  { table
    problems := illegal ++ rejected.take (limit - illegal.length) ++ misused.take limit }

end KarelLint.Diagnosis
