import KarelLint.Text.Blank
import KarelLint.Text.Word
import KarelLint.Text.Offset
import KarelLint.Text.Identifier
import KarelLint.Source.Lexicon

/-! Declarations of procedures, found anywhere in a text.

A declaration starts with a declarator at a word boundary, then white space, then a name.
A parameter list may follow: parentheses around at most one identifier, with white space
allowed before and inside them. Declarations do not overlap: the search for the next one
starts where the last one ends. -/

set_option autoImplicit false

namespace KarelLint.Source

/-- A declared procedure. The offset is that of the name. -/
structure Declaration where
  name : String
  offset : Nat
  parameter : Option String
  parenthesized : Bool
  deriving DecidableEq, Repr

/-- A parameter list that stands at the start of a text. -/
structure ParameterList where
  /-- All its characters, from the white space before it to the closing parenthesis. -/
  written : List Char
  parameter : Option (List Char)
  deriving DecidableEq, Repr

/-- A declaration that stands at the start of a text, cut into its parts. -/
structure Heading where
  /-- The declarator and the white space after it. -/
  lead : List Char
  name : List Char
  parameters : Option ParameterList
  deriving DecidableEq, Repr

/-- An identifier that may be missing, and the text after it. -/
def optionalIdentifier (text : List Char) : Option (List Char) × List Char :=
  match Text.identifier? text with
  | some (name, rest) => (some name, rest)
  | none => (none, text)

/-- The parameter list at the start of a text. -/
def parameterList? (text : List Char) : Option ParameterList :=
  match text.dropWhile Text.isBlank with
  | '(' :: inner =>
      let (parameter, after) := optionalIdentifier (inner.dropWhile Text.isBlank)
      match after.dropWhile Text.isBlank with
      | ')' :: _ =>
          some {
            written :=
              text.takeWhile Text.isBlank ++ ['('] ++ inner.takeWhile Text.isBlank ++
                parameter.getD [] ++ after.takeWhile Text.isBlank ++ [')']
            parameter }
      | _ => none
  | _ => none

/-- The declarator at the start of a text, with the text after it. -/
def declarator? (text : List Char) : Option (List Char × List Char) :=
  declarators.findSome? fun word => (word.toList.isPrefixOf? text).map (word.toList, ·)

/-- The white space at the start of a text, which must not be missing, and the text after
it. -/
def gap? (text : List Char) : Option (List Char × List Char) :=
  match text.takeWhile Text.isBlank with
  | [] => none
  | gap => some (gap, text.dropWhile Text.isBlank)

/-- The declaration at the start of a text, if a word starts there after `before`. -/
def heading? (before : Option Char) (text : List Char) : Option Heading := do
  guard (Text.wordBoundary before text.head?)
  let (word, afterWord) ← declarator? text
  let (gap, afterGap) ← gap? afterWord
  let (name, afterName) ← Text.identifier? afterGap
  return ⟨word ++ gap, name, parameterList? afterName⟩

namespace Heading

/-- All characters of a heading. -/
def written (heading : Heading) : List Char :=
  heading.lead ++ heading.name ++ (heading.parameters.map (·.written)).getD []

/-- The declaration that a heading makes when its text starts at a byte offset. -/
def declaration (heading : Heading) (offset : Nat) : Declaration where
  name := String.ofList heading.name
  offset := offset + Text.byteLength heading.lead
  parameter := (heading.parameters.bind (·.parameter)).map String.ofList
  parenthesized := heading.parameters.isSome

end Heading

/-- The declarations of a text that starts at a byte offset, after a character `before`.
The first `skip` characters belong to a declaration that was found already. -/
def declarationsFrom (skip : Nat) (before : Option Char) (offset : Nat) :
    List Char → List Declaration
  | [] => []
  | c :: rest =>
      match skip with
      | skip + 1 => declarationsFrom skip (some c) (offset + c.utf8Size) rest
      | 0 =>
          match heading? before (c :: rest) with
          | none => declarationsFrom 0 (some c) (offset + c.utf8Size) rest
          | some heading =>
              heading.declaration offset ::
                declarationsFrom (heading.written.length - 1) (some c)
                  (offset + c.utf8Size) rest

/-- The declarations of a text, in the order of their offsets. -/
def declarations (text : String) : List Declaration :=
  declarationsFrom 0 none 0 text.toList

end KarelLint.Source
