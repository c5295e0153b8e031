import KarelLint.Json.Record
import KarelLint.Session.Completion
import KarelLint.Session.Configuration
import KarelLint.Session.Diagnostic

/-! The messages between an editor and the language server, and their form in JSON. -/

set_option autoImplicit false

namespace KarelLint.Session

namespace RequestId

/-- Read the identity of a request. -/
def ofJson? : Json → Option RequestId
  | .str value => some (text value)
  | value => value.int32?.map number

/-- Write the identity of a request. -/
def toJson : RequestId → Json
  | number value => .int value
  | text value => .str value

end RequestId

/-- A message from the editor, before its parameters are read. Missing parameters and
results are `null`. -/
inductive ClientMessage where
  | request (id : RequestId) (method : String) (params : Json)
  | notification (method : String) (params : Json)
  | response (id : RequestId) (result : Json)

/-- The answer to a request of the editor. -/
inductive Reply where
  /-- The server is ready, and follows the folders of the workspace if the editor does. -/
  | welcome (workspaceFolders : Bool)
  | completions (items : List CompletionItem)
  | resolved (item : CompletionItem)
  /-- There is nothing to say. -/
  | done
  | methodNotFound (method : String)
  | invalidParams
  /-- The session has not started yet. -/
  | notInitialized

/-- A message to the editor. -/
inductive ServerMessage where
  | answer (id : RequestId) (reply : Reply)
  /-- Ask for the settings of a document. -/
  | askSettings (id : RequestId) (uri : Uri)
  /-- Ask to be told when the configuration changes. -/
  | registerChanges (id : RequestId)
  /-- Show the problems of a document, in place of those shown before. With `related`, each
  names its own place once more as related information. -/
  | publish (uri : Uri) (related : Bool) (diagnostics : List Diagnostic)

namespace ClientMessage

/-- An error that the editor reports: it has a code and a text. -/
def error? : Json → Option Json.Members :=
  Json.checkedWith? [.required "code" Json.int32?, .required "message" Json.str?]
    [.optional "data" some]

/-- Read a request. -/
def request? (value : Json) : Option ClientMessage := do
  let fields ← value.extended? ["id", "method"] ["params"]
  return request (← Json.required? "id" RequestId.ofJson? fields)
    (← Json.required? "method" Json.str? fields) ((fields.lookup "params").getD .null)

/-- Read a response. The result counts, also beside an error. -/
def response? (value : Json) : Option ClientMessage := do
  let fields ← value.extended? ["id"] ["result", "error"]
  let id ← Json.required? "id" RequestId.ofJson? fields
  let _ ← Json.optional? "error" error? fields
  return response id ((fields.lookup "result").getD .null)

/-- Read a notification. -/
def notification? (value : Json) : Option ClientMessage := do
  let fields ← value.extended? ["method"] ["params"]
  return notification (← Json.required? "method" Json.str? fields)
    ((fields.lookup "params").getD .null)

/-- Read a message. What has an identity and a method is a request, what has only an identity
is a response, and what has only a method is a notification. -/
def ofJson? (value : Json) : Option ClientMessage :=
  request? value <|> response? value <|> notification? value

end ClientMessage

/-- The name under which the server appears. -/
def serverName : String := "karel"

/-- The version of the server. -/
def serverVersion : String := "0.1.0"

/-- What the server is to an editor that shows where a problem was found. -/
def diagnosticSource : String := "karelserver"

namespace Reply

/-- What the server can do. It wants each text as a whole, offers words, and tells more
about them. -/
def capabilities (workspaceFolders : Bool) : Json :=
  .ofOptions [
    ("textDocumentSync", some (.int 1)),
    ("completionProvider", some (.obj [("resolveProvider", .bool true)])),
    ("workspace",
      if workspaceFolders then
        some (.obj [("workspaceFolders", .obj [("supported", .bool true)])])
      else none)]

/-- The code and the text of an error. -/
def error? : Reply → Option (Int × String)
  | methodNotFound method => some (-32601, "Method not found: " ++ method)
  | invalidParams => some (-32602, "Invalid params")
  | notInitialized => some (-32002, "Server not initialized")
  | _ => none

/-- What a reply that is no error returns. -/
def result : Reply → Json
  | welcome workspaceFolders =>
      .obj [("capabilities", capabilities workspaceFolders),
        ("serverInfo", .obj [("name", .str serverName), ("version", .str serverVersion)])]
  | completions items => .arr (items.map CompletionItem.toJson)
  | resolved item => item.toJson
  | done | methodNotFound _ | invalidParams | notInitialized => .null

/-- The member of a response that a reply becomes. -/
def toMember (reply : Reply) : String × Json :=
  match reply.error? with
  | some (code, message) => ("error", .obj [("code", .int code), ("message", .str message)])
  | none => ("result", reply.result)

end Reply

namespace ServerMessage

/-- Write a diagnostic of a document. All of them are errors. -/
def diagnosticJson (uri : Uri) (related : Bool) (diagnostic : Diagnostic) : Json :=
  .ofOptions [
    ("range", some (diagnostic.range.toJson)),
    ("severity", some (.int 1)),
    ("source", some (.str diagnosticSource)),
    ("message", some (.str diagnostic.message)),
    ("relatedInformation",
      if related then
        some (.arr [.obj [
          ("location", .obj [("uri", .str uri.text), ("range", diagnostic.range.toJson)]),
          ("message", .str "")]])
      else none)]

/-- Write a message. -/
def toJson : ServerMessage → Json
  | answer id reply => .obj [("id", id.toJson), reply.toMember]
  | askSettings id uri =>
      .obj [("id", id.toJson), ("method", .str "workspace/configuration"),
        ("params", .obj [("items", .arr [.obj [
          ("scopeUri", .str uri.text), ("section", .str Configuration.sectionName)]])])]
  | registerChanges id =>
      .obj [("id", id.toJson), ("method", .str "client/registerCapability"),
        ("params", .obj [("registrations", .arr [.obj [
          ("id", .str "karel-configuration"),
          ("method", .str "workspace/didChangeConfiguration")]])])]
  | publish uri related diagnostics =>
      .obj [("method", .str "textDocument/publishDiagnostics"),
        ("params", .obj [
          ("uri", .str uri.text),
          ("diagnostics", .arr (diagnostics.map (diagnosticJson uri related)))])]

end ServerMessage

end KarelLint.Session
