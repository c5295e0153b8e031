import KarelLint.Text.Blank
import KarelLint.Text.Word
import KarelLint.Text.Identifier

/-! Calls, found anywhere in a text: an identifier that starts a word, directly followed by
an opening parenthesis that is closed later on. Calls may stand inside the arguments of
other calls. -/

set_option autoImplicit false

namespace KarelLint.Source

/-- A call. The offset is that of the name, and the arguments are the text between its
parentheses. -/
structure Call where
  name : String
  offset : Nat
  arguments : String
  deriving DecidableEq, Repr

/-- The text before the parenthesis that closes an opened one, when `depth` further
parentheses have been opened. There is none if the text ends first. -/
def enclosed? (depth : Nat) : List Char → Option (List Char)
  | [] => none
  | c :: rest =>
      if c = '(' then (enclosed? (depth + 1) rest).map (c :: ·)
      else if c = ')' then
        match depth with
        | 0 => some []
        | depth + 1 => (enclosed? depth rest).map (c :: ·)
      else (enclosed? depth rest).map (c :: ·)

/-- The name and the arguments of the call at the start of a text, if a word starts there
after `before`. -/
def callHead? (before : Option Char) (text : List Char) : Option (List Char × List Char) := do
  guard (Text.wordBoundary before text.head?)
  let (name, after) ← Text.identifier? text
  match after with
  | '(' :: inner => (enclosed? 0 inner).map (name, ·)
  | _ => none

/-- The calls of a text that starts at a byte offset, after a character `before`. -/
def callsFrom (before : Option Char) (offset : Nat) : List Char → List Call
  | [] => []
  | c :: rest =>
      match callHead? before (c :: rest) with
      | none => callsFrom (some c) (offset + c.utf8Size) rest
      | some (name, arguments) =>
          ⟨String.ofList name, offset, String.ofList arguments⟩ ::
            callsFrom (some c) (offset + c.utf8Size) rest

/-- The calls of a text, in the order of their offsets. -/
def calls (text : String) : List Call :=
  callsFrom none 0 text.toList

/-- The number of commas outside parentheses, when `depth` parentheses are open. A closing
parenthesis that nothing opened is passed over. -/
def outerCommas (depth : Nat) : List Char → Nat
  | [] => 0
  | c :: rest =>
      if c = '(' then outerCommas (depth + 1) rest
      else if c = ')' then outerCommas (depth - 1) rest
      else if c = ',' ∧ depth = 0 then outerCommas depth rest + 1
      else outerCommas depth rest

namespace Call

/-- Whether anything but white space stands between the parentheses. -/
def hasArguments (call : Call) : Bool :=
  !Text.allBlank call.arguments.toList

/-- The number of arguments: they are divided by commas outside inner parentheses. -/
def argumentCount (call : Call) : Nat :=
  if call.hasArguments then outerCommas 0 call.arguments.toList + 1 else 0

end Call

end KarelLint.Source
