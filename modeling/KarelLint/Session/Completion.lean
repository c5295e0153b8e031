import KarelLint.Session.Edit
import KarelLint.Source.Lexicon
import KarelLint.Source.SymbolTable

/-! The words that an editor offers while a program is written. -/

set_option autoImplicit false

namespace KarelLint.Session

open KarelLint.Source

/-- How a documentation text is to be read. -/
inductive Markup where
  | plaintext
  | markdown
  deriving DecidableEq, Repr

/-- A documentation text, possibly with the way to read it. -/
inductive Documentation where
  | text (value : String)
  | markup (kind : Markup) (value : String)
  deriving DecidableEq, Repr

/-- What stands beside the label of an item. -/
structure LabelDetails where
  detail : Option String
  description : Option String
  deriving DecidableEq, Repr

/-- An offer to complete a word. -/
structure CompletionItem where
  label : String
  labelDetails : Option LabelDetails := none
  kind : Option Int := none
  detail : Option String := none
  documentation : Option Documentation := none
  deprecated : Option Bool := none
  preselect : Option Bool := none
  sortText : Option String := none
  filterText : Option String := none
  insertText : Option String := none
  insertTextFormat : Option Int := none
  insertTextMode : Option Int := none
  textEdit : Option CompletionEdit := none
  additionalTextEdits : Option (List TextEdit) := none
  command : Option Command := none
  commitCharacters : Option (List String) := none
  /-- What comes back unchanged when the editor asks for more about the item. -/
  data : Option Json := none
  tags : Option (List Int) := none

namespace Markup

/-- The name of a way to read a text. -/
def name : Markup → String
  | plaintext => "plaintext"
  | markdown => "markdown"

/-- Read the name of a way to read a text. -/
def ofJson? (value : Json) : Option Markup :=
  match value.word? with
  | some "plaintext" => some plaintext
  | some "markdown" => some markdown
  | _ => none

end Markup

namespace Documentation

/-- Read a documentation text. -/
def ofJson? : Json → Option Documentation
  | .str value => some (text value)
  | value => do
      let fields ← value.record? ["kind", "value"]
      let kind ← Json.required? "kind" Markup.ofJson? fields
      let value ← Json.required? "value" Json.str? fields
      return markup kind value

/-- Write a documentation text. -/
def toJson : Documentation → Json
  | text value => .str value
  | markup kind value => .obj [("kind", .str kind.name), ("value", .str value)]

end Documentation

namespace LabelDetails

/-- Read what stands beside a label. -/
def ofJson? (value : Json) : Option LabelDetails := do
  let fields ← value.record? ["detail", "description"]
  return {
    detail := ← Json.optional? "detail" Json.str? fields
    description := ← Json.optional? "description" Json.str? fields }

/-- Write what stands beside a label. -/
def toJson (details : LabelDetails) : Json :=
  .ofOptions [
    ("detail", details.detail.map .str),
    ("description", details.description.map .str)]

end LabelDetails

namespace CompletionItem

/-- The kind of item that stands for a method. -/
def method : Int := 2

/-- The offer of a built-in word. Its name is kept as data, so that more can be told about
it later. -/
def ofBuiltin (builtin : Builtin) : CompletionItem where
  label := builtin.name
  kind := some method
  data := some (.str builtin.name)

/-- The offer of a procedure, with a sample call as its detail. -/
def ofSymbol (symbol : Symbol) : CompletionItem where
  label := symbol.name
  kind := some method
  detail := some <| match symbol.arity with
    | .nullary => symbol.name ++ "()"
    | .unary => symbol.name ++ "(n)"

/-- The built-in words, followed by the procedures of a program in the order of their
names. -/
def all (table : Option SymbolTable) : List CompletionItem :=
  builtins.map ofBuiltin ++ (table.map (·.toList.map ofSymbol)).getD []

/-- The built-in word that an item stands for. -/
def builtin? (item : CompletionItem) : Option Builtin :=
  match item.data with
  | some (.str name) => Source.builtin? name
  | _ => none

/-- Tell what is known about the built-in word that an item stands for. Other items stay as
they are. -/
def resolve (item : CompletionItem) : CompletionItem :=
  match item.builtin? with
  | none => item
  | some builtin =>
      { item with
        detail := builtin.detail <|> item.detail
        documentation := builtin.documentation.map .text <|> item.documentation }

/-- The names of the fields of an item. -/
def fieldNames : List String :=
  ["label", "labelDetails", "kind", "detail", "documentation", "deprecated", "preselect",
    "sortText", "filterText", "insertText", "insertTextFormat", "insertTextMode", "textEdit",
    "additionalTextEdits", "command", "commitCharacters", "data", "tags"]

/-- Read an item. -/
def ofJson? (value : Json) : Option CompletionItem := do
  let fields ← value.record? fieldNames
  return {
    label := ← Json.required? "label" Json.str? fields
    labelDetails := ← Json.optional? "labelDetails" LabelDetails.ofJson? fields
    kind := ← Json.optional? "kind" Json.int32? fields
    detail := ← Json.optional? "detail" Json.str? fields
    documentation := ← Json.optional? "documentation" Documentation.ofJson? fields
    deprecated := ← Json.optional? "deprecated" Json.bool? fields
    preselect := ← Json.optional? "preselect" Json.bool? fields
    sortText := ← Json.optional? "sortText" Json.str? fields
    filterText := ← Json.optional? "filterText" Json.str? fields
    insertText := ← Json.optional? "insertText" Json.str? fields
    insertTextFormat := ← Json.optional? "insertTextFormat" Json.int32? fields
    insertTextMode := ← Json.optional? "insertTextMode" Json.int32? fields
    textEdit := ← Json.optional? "textEdit" CompletionEdit.ofJson? fields
    additionalTextEdits :=
      ← Json.optional? "additionalTextEdits" (Json.list? TextEdit.ofJson?) fields
    command := ← Json.optional? "command" Command.ofJson? fields
    commitCharacters := ← Json.optional? "commitCharacters" (Json.list? Json.str?) fields
    data := ← Json.optional? "data" some fields
    tags := ← Json.optional? "tags" (Json.list? Json.int32?) fields }

/-- Write an item. What is not known is left out. -/
def toJson (item : CompletionItem) : Json :=
  .ofOptions [
    ("label", some (.str item.label)),
    ("labelDetails", item.labelDetails.map LabelDetails.toJson),
    ("kind", item.kind.map .int),
    ("detail", item.detail.map .str),
    ("documentation", item.documentation.map Documentation.toJson),
    ("deprecated", item.deprecated.map .bool),
    ("preselect", item.preselect.map .bool),
    ("sortText", item.sortText.map .str),
    ("filterText", item.filterText.map .str),
    ("insertText", item.insertText.map .str),
    ("insertTextFormat", item.insertTextFormat.map .int),
    ("insertTextMode", item.insertTextMode.map .int),
    ("textEdit", item.textEdit.map CompletionEdit.toJson),
    ("additionalTextEdits",
      item.additionalTextEdits.map fun edits => .arr (edits.map TextEdit.toJson)),
    ("command", item.command.map Command.toJson),
    ("commitCharacters", item.commitCharacters.map fun texts => .arr (texts.map .str)),
    ("data", item.data),
    ("tags", item.tags.map fun tags => .arr (tags.map .int))]

end CompletionItem

end KarelLint.Session
