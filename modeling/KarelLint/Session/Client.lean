import KarelLint.Session.Capabilities
import KarelLint.Session.Message

/-! How an editor introduces itself when a session starts. -/

set_option autoImplicit false

namespace KarelLint.Session

open KarelLint.Json (Field)

/-- What the server has to know about an editor. -/
structure Client where
  /-- It answers questions about its configuration. -/
  configuration : Bool
  /-- It works on several folders. -/
  workspaceFolders : Bool
  /-- It shows related information beside a problem. -/
  relatedInformation : Bool
  deriving DecidableEq, Repr

namespace Client

/-- A folder that an editor works on. -/
def folder : List Field :=
  [.required "uri" Uri.ofJson?, .required "name" Json.str?]

/-- The name of an editor. -/
def identity : List Field :=
  [.required "name" Json.str?, .optional "version" Json.str?]

/-- What an editor says when a session starts. -/
def introduction : List Field :=
  [.optional "processId" Json.nat32?,
    .optional "rootPath" Json.str?,
    .optional "rootUri" Uri.ofJson?,
    .required "capabilities" (Json.checked? Capabilities.all),
    .optional "trace" (Json.oneOf? ["off", "messages", "verbose"]),
    .optional "workspaceFolders" (Json.list? (Json.checked? folder)),
    .optional "clientInfo" (Json.checked? identity),
    .optional "locale" Json.str?,
    .optional "workDoneToken" RequestId.ofJson?]

/-- A flag that is off unless it is set. -/
def flag? (name : String) (fields : Json.Members) : Option Bool :=
  (Json.optional? name Json.bool? fields).map (·.getD false)

/-- The fields of an optional group. -/
def group? (name : String) (group : List Field) (fields : Json.Members) :
    Option Json.Members :=
  (Json.optional? name (Json.checked? group) fields).map (·.getD [])

/-- Read what an editor says about itself. An introduction is an object. -/
def ofJson? (value : Json) : Option Client := do
  let fields ← value.object?.filter fun fields => introduction.all (·.check fields)
  let capabilities ← Json.required? "capabilities" (Json.checked? Capabilities.all) fields
  let workspace ← group? "workspace" Capabilities.workspace capabilities
  let textDocument ← group? "textDocument" Capabilities.textDocument capabilities
  let publishDiagnostics ←
    group? "publishDiagnostics" Capabilities.publishDiagnostics textDocument
  return {
    configuration := ← flag? "configuration" workspace
    workspaceFolders := ← flag? "workspaceFolders" workspace
    relatedInformation := ← flag? "relatedInformation" publishDiagnostics }

end Client

end KarelLint.Session
