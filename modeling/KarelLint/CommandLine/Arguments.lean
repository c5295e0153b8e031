import KarelLint.Session.Settings
import KarelLint.Terminal.Excerpt
import KarelLint.Text.Decimal

/-! What the arguments of the command line ask for. -/

set_option autoImplicit false

namespace KarelLint.CommandLine

/-- How a file is to be checked. -/
structure CheckOptions where
  filename : String
  limit : Nat
  detail : Terminal.Detail
  deriving DecidableEq, Repr

/-- What the arguments ask for. -/
inductive Command where
  /-- Nothing is asked for: tell how to ask. -/
  | usage
  | help
  /-- Tell the version of a program, or of one of its commands. -/
  | version (program : String)
  | check (options : CheckOptions)
  /-- Be the language server of an editor. -/
  | serve
  deriving DecidableEq, Repr

/-- The name of the program. -/
def programName : String := "karel"

/-- A decimal number of at most 64 bits. A plus sign may stand before it. -/
def limit? (text : String) : Option Nat := do
  let value ← Text.decimal? <| match text.toList with
    | '+' :: digits => digits
    | digits => digits
  if value ≤ Text.maxWord64 then some value else none

/-- The form of an argument. -/
inductive Argument where
  /-- Two hyphens, after which every argument is a value. -/
  | divider
  /-- A name after two hyphens, with the value after its first equals sign. -/
  | long (name : String) (value : Option String)
  /-- A letter after one hyphen. More letters may follow. -/
  | short (letter : Char)
  | plain (text : String)
  deriving DecidableEq, Repr

namespace Argument

/-- The name of a long option, and the value that stands with it. -/
def ofLong (text : List Char) : Argument :=
  let name := text.takeWhile (· != '=')
  match text.drop name.length with
  | [] => long (String.ofList name) none
  | _ :: value => long (String.ofList name) (some (String.ofList value))

/-- The form of an argument. One hyphen alone is a value. -/
def ofString (text : String) : Argument :=
  match text.toList with
  | ['-', '-'] => divider
  | '-' :: '-' :: rest => ofLong rest
  | '-' :: letter :: _ => short letter
  | _ => plain text

end Argument

/-- The options that every command has. -/
def common? (program : String) : Argument → Option Command
  | .long "version" none | .short 'V' => some (.version program)
  | .long "help" none | .short 'h' => some .help
  | _ => none

/-- What has been said so far about a check. -/
structure Draft where
  filename : Option String := none
  limit : Option Nat := none
  concise : Bool := false

namespace Draft

/-- The check that a draft asks for. It needs a file. -/
def finish? (draft : Draft) : Option Command :=
  draft.filename.map fun filename =>
    .check {
      filename
      limit := draft.limit.getD Session.defaultLimit
      detail := if draft.concise then .concise else .full }

/-- Set the file, once. -/
def setFilename? (draft : Draft) (filename : String) : Option Draft :=
  if draft.filename.isSome then none else some { draft with filename := some filename }

/-- Set the limit, once. -/
def setLimit? (draft : Draft) (text : String) : Option Draft :=
  if draft.limit.isSome then none
  else (limit? text).map fun limit => { draft with limit := some limit }

/-- Ask for one line for each problem, once. -/
def setConcise? (draft : Draft) : Option Draft :=
  if draft.concise then none else some { draft with concise := true }

/-- Read the arguments of a check from left to right. A request for the version ends the
reading, and so does the first error. -/
def read? (draft : Draft) : List String → Option Command
  | [] => draft.finish?
  | argument :: rest =>
      match Argument.ofString argument with
      | .divider => do (← rest.foldlM setFilename? draft).finish?
      | .plain filename => do (← draft.setFilename? filename).read? rest
      | .long "max" (some text) => do (← draft.setLimit? text).read? rest
      | .long "max" none =>
          match rest with
          | [] => none
          | next :: later =>
              match Argument.ofString next with
              | .plain text => do (← draft.setLimit? text).read? later
              | _ => none
      | .long "concise" none => do (← draft.setConcise?).read? rest
      | option => common? (programName ++ "-check") option

end Draft

/-- Read the arguments of the language server: there are none. -/
def serve? : List String → Option Command
  | [] => some .serve
  | argument :: rest =>
      match Argument.ofString argument with
      | .divider => if rest.isEmpty then some .serve else none
      | option => common? (programName ++ "-language") option

/-- Read the arguments of the program. There is no command if they are wrong. -/
def Command.parse? : List String → Option Command
  | [] => some .usage
  | "check" :: rest => ({} : Draft).read? rest
  | "language" :: rest => serve? rest
  | argument :: rest =>
      match Argument.ofString argument with
      | .divider => if rest.isEmpty then some .usage else none
      | option => common? programName option

end KarelLint.CommandLine
