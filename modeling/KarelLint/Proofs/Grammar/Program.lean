import KarelLint.Source.Lexicon
import KarelLint.Source.SymbolTable
import KarelLint.Proofs.Source.Scan

/-! Programs as trees, and how they are written. A program of this kind is well formed: its
procedures have names of their own that are not reserved, and each call of a procedure has an
argument exactly if the procedure has a parameter. -/

set_option autoImplicit false

namespace KarelLint.Grammar

open KarelLint.Source

/-! ## Words -/

/-- An identifier. -/
structure Identifier where
  chars : List Char
  valid : Text.IsIdentifier chars

namespace Identifier

/-- An identifier as a name. -/
def text (identifier : Identifier) : String :=
  String.ofList identifier.chars

end Identifier

/-- A number in decimal digits. -/
structure Numeral where
  digits : List Char
  nonempty : digits ≠ []
  numeric : ∀ digit ∈ digits, digit.isDigit = true

/-- One of some words. -/
def WordOf (words : List String) : Type :=
  { word : String // word ∈ words }

namespace WordOf

/-- The characters of a word. -/
def chars {words : List String} (word : WordOf words) : List Char :=
  word.val.toList

end WordOf

/-- The words that make a number or a test of an argument. -/
def functions : List String :=
  ["succ", "pred", "iszero"]

/-- The words that decide whether and how often a block runs. -/
def controls : List String :=
  ["if", "while", "iterate"]

/-! ## Expressions and blocks -/

/-- What stands between parentheses. -/
inductive Expression where
  | number (numeral : Numeral)
  | variable (name : Identifier) (ordinary : name.text ∉ declarators)
  | apply (function : WordOf functions) (argument : Expression)
  | negate (operand : Expression)

/-- Statements one after the other. Each constructor but the first puts a statement in front
of the rest of a block. -/
inductive Block where
  | done
  | instruct (instruction : WordOf instructions) (rest : Block)
  | call (name : Identifier) (argument : Option Expression) (rest : Block)
  | control (word : WordOf controls) (spaced : Bool) (condition : Expression) (body rest : Block)

/-- A procedure with a name that is not reserved. -/
structure Procedure where
  declarator : WordOf declarators
  name : Identifier
  unreserved : isReserved name.text = false
  parameter : Option Identifier
  body : Block

/-- Every procedure that a block calls is declared, and it is called with an argument exactly
if it has a parameter. -/
def Block.Resolved (procedures : List Procedure) : Block → Prop
  | .done => True
  | .instruct _ rest => rest.Resolved procedures
  | .call name argument rest =>
      (∃ procedure ∈ procedures, procedure.name.text = name.text ∧
        procedure.parameter.isSome = argument.isSome) ∧ rest.Resolved procedures
  | .control _ _ _ body rest => body.Resolved procedures ∧ rest.Resolved procedures

/-- A program: procedures, in any order, and the block that starts it. -/
structure Program where
  procedures : List Procedure
  main : Block
  distinct : (procedures.map fun procedure => procedure.name.text).Nodup
  bodies : ∀ procedure ∈ procedures, procedure.body.Resolved procedures
  start : main.Resolved procedures

/-! ## Writing -/

/-- An expression as it is written. -/
def Expression.written : Expression → List Char
  | .number numeral => numeral.digits
  | .variable name _ => name.chars
  | .apply function argument => function.chars ++ '(' :: (argument.written ++ [')'])
  | .negate operand => '!' :: operand.written

/-- The expression between the parentheses of a call, if there is one. -/
def argumentText (argument : Option Expression) : List Char :=
  (argument.map (·.written)).getD []

/-- A block as it is written, each statement on lines of its own. -/
def Block.written : Block → List Char
  | .done => []
  | .instruct instruction rest => instruction.chars ++ '(' :: ')' :: ';' :: '\n' :: rest.written
  | .call name argument rest =>
      name.chars ++ '(' :: (argumentText argument ++ ')' :: ';' :: '\n' :: rest.written)
  | .control word spaced condition body rest =>
      word.chars ++ ((if spaced then [' '] else []) ++ '(' ::
        (condition.written ++ ')' :: ' ' :: '\x7b' :: '\n' ::
          (body.written ++ '\x7d' :: '\n' :: rest.written)))

namespace Procedure

/-- The line that declares a procedure, up to its closing parenthesis. -/
def heading (procedure : Procedure) : List Char :=
  headingText procedure.declarator.chars procedure.name.chars
    (procedure.parameter.map (·.chars))

/-- A procedure as it is written. -/
def written (procedure : Procedure) : List Char :=
  procedure.heading ++ ' ' :: '\x7b' :: '\n' :: (procedure.body.written ++ ['\x7d', '\n'])

/-- The number of parameters of a procedure. -/
def arity (procedure : Procedure) : Arity :=
  match procedure.parameter with
  | none => .nullary
  | some _ => .unary

/-- The declaration of a procedure that is written at a byte offset. -/
def declaration (procedure : Procedure) (offset : Nat) : Declaration where
  name := procedure.name.text
  offset := offset + Text.byteLength procedure.declarator.chars + 1
  parameter := procedure.parameter.map (·.text)
  parenthesized := true

end Procedure

/-- The declarations of procedures that are written one after the other from a byte offset
on. -/
def declarationsAt (offset : Nat) : List Procedure → List Declaration
  | [] => []
  | procedure :: later =>
      procedure.declaration offset ::
        declarationsAt (offset + Text.byteLength procedure.written) later

namespace Program

/-- The first line of a program. -/
def opening : List Char :=
  "class program \x7b\n".toList

/-- A program as it is written. -/
def written (program : Program) : List Char :=
  opening ++ (program.procedures.flatMap (·.written) ++
    ("program() \x7b\n".toList ++ (program.main.written ++ "\x7d\n\x7d\n".toList)))

/-- The text of a program. -/
def render (program : Program) : String :=
  String.ofList program.written

/-- What is written before the name of a procedure that follows others. -/
def before (earlier : List Procedure) (procedure : Procedure) : List Char :=
  opening ++ earlier.flatMap (·.written) ++ procedure.declarator.chars ++ [' ']

/-- The declarations of a program, each with the offset at which its name is written. -/
def declarations (program : Program) : List Declaration :=
  declarationsAt (Text.byteLength opening) program.procedures

end Program

end KarelLint.Grammar
