import KarelLint.Session.Range

/-! Changes to a document that come with an offer to complete a word. The server makes none of
its own, but an editor may send an item that has some, and gets them back. -/

set_option autoImplicit false

namespace KarelLint.Session

/-- A new text for a part of a document. -/
structure TextEdit where
  range : Range
  newText : String
  deriving DecidableEq, Repr

/-- What becomes of the word at hand. -/
inductive CompletionEdit where
  | single (edit : TextEdit)
  /-- The text goes into one range, or takes the place of another. -/
  | insertOrReplace (newText : String) (insert replace : Range)
  deriving DecidableEq, Repr

/-- Something that the editor does after a change. -/
structure Command where
  title : String
  command : String
  arguments : Option (List Json)

namespace TextEdit

/-- Read a change. -/
def ofJson? (value : Json) : Option TextEdit := do
  let fields ← value.record? ["range", "newText"]
  return {
    range := ← Json.required? "range" Range.ofJson? fields
    newText := ← Json.required? "newText" Json.str? fields }

/-- Write a change. -/
def toJson (edit : TextEdit) : Json :=
  .obj [("range", edit.range.toJson), ("newText", .str edit.newText)]

end TextEdit

namespace CompletionEdit

/-- Read a change with two ranges. -/
def insertOrReplace? (value : Json) : Option CompletionEdit := do
  let fields ← value.record? ["newText", "insert", "replace"]
  return insertOrReplace (← Json.required? "newText" Json.str? fields)
    (← Json.required? "insert" Range.ofJson? fields)
    (← Json.required? "replace" Range.ofJson? fields)

/-- Read what becomes of the word at hand. -/
def ofJson? (value : Json) : Option CompletionEdit :=
  (TextEdit.ofJson? value).map single <|> insertOrReplace? value

/-- Write what becomes of the word at hand. -/
def toJson : CompletionEdit → Json
  | single edit => edit.toJson
  | insertOrReplace newText insert replace =>
      .obj [("newText", .str newText), ("insert", insert.toJson), ("replace", replace.toJson)]

end CompletionEdit

namespace Command

/-- Read a command. -/
def ofJson? (value : Json) : Option Command := do
  let fields ← value.record? ["title", "command", "arguments"]
  return {
    title := ← Json.required? "title" Json.str? fields
    command := ← Json.required? "command" Json.str? fields
    arguments := ← Json.optional? "arguments" (Json.list? some) fields }

/-- Write a command. -/
def toJson (command : Command) : Json :=
  .ofOptions [
    ("title", some (.str command.title)),
    ("command", some (.str command.command)),
    ("arguments", command.arguments.map .arr)]

end Command

end KarelLint.Session
