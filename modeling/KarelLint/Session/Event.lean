import KarelLint.Session.Client

/-! What the messages of an editor mean once their parameters are read. -/

set_option autoImplicit false

namespace KarelLint.Session

/-- A request of the editor. -/
inductive Request where
  | completion (uri : Uri)
  | resolve (item : CompletionItem)
  | shutdown
  /-- A request that the server knows, with parameters that it cannot read. -/
  | malformed
  | unknown (method : String)

/-- A notification of the editor. -/
inductive Notification where
  | exit
  | initialized
  | opened (uri : Uri) (text : String)
  /-- The texts of a document after each of some changes. -/
  | changed (uri : Uri) (texts : List String)
  | closed (uri : Uri)
  | configured (settings : Json)
  /-- A notification that the server does not know, or whose parameters it cannot read. -/
  | ignored

/-- A message of the editor with its parameters read. -/
inductive Event where
  | request (id : RequestId) (request : Request)
  | notification (notification : Notification)
  | response (id : RequestId) (result : Json)

/-- Read the reference to a document. -/
def document? (value : Json) : Option Uri := do
  Json.required? "uri" Uri.ofJson? (← value.record? ["uri"])

/-- What led to a request for completions. -/
def trigger? : Json → Option Json.Members :=
  Json.checked? [.required "triggerKind" Json.int32?, .optional "triggerCharacter" Json.str?]

namespace Request

/-- Read the parameters of a request for completions. The words that are offered do not
depend on the position. -/
def completion? (params : Json) : Option Request := do
  let fields ← params.object?
  let uri ← Json.required? "textDocument" document? fields
  let _ ← Json.required? "position" Range.place? fields
  let _ ← Json.optional? "context" trigger? fields
  let _ ← Json.optional? "workDoneToken" RequestId.ofJson? fields
  let _ ← Json.optional? "partialResultToken" RequestId.ofJson? fields
  return completion uri

/-- Read a request. -/
def read (method : String) (params : Json) : Request :=
  match method with
  | "textDocument/completion" => (completion? params).getD malformed
  | "completionItem/resolve" => ((CompletionItem.ofJson? params).map resolve).getD malformed
  | "shutdown" => shutdown
  | method => unknown method

end Request

namespace Notification

/-- Read the parameters of a notice that a document was opened. -/
def opened? (params : Json) : Option Notification := do
  let fields ← params.record? ["textDocument"]
  let document ← Json.required? "textDocument"
    (Json.record? ["uri", "languageId", "version", "text"]) fields
  let uri ← Json.required? "uri" Uri.ofJson? document
  let _ ← Json.required? "languageId" Json.str? document
  let _ ← Json.required? "version" Json.int32? document
  let text ← Json.required? "text" Json.str? document
  return opened uri text

/-- Read the text of a document after a change. -/
def change? (value : Json) : Option String := do
  let fields ← value.record? ["range", "rangeLength", "text"]
  let _ ← Json.optional? "range" Range.ofJson? fields
  let _ ← Json.optional? "rangeLength" Json.nat32? fields
  Json.required? "text" Json.str? fields

/-- Read the parameters of a notice that a document was changed. -/
def changed? (params : Json) : Option Notification := do
  let fields ← params.record? ["textDocument", "contentChanges"]
  let document ← Json.required? "textDocument" (Json.record? ["uri", "version"]) fields
  let uri ← Json.required? "uri" Uri.ofJson? document
  let _ ← Json.required? "version" Json.int32? document
  let texts ← Json.required? "contentChanges" (Json.list? change?) fields
  return changed uri texts

/-- Read the parameters of a notice that a document was closed. -/
def closed? (params : Json) : Option Notification := do
  let fields ← params.record? ["textDocument"]
  let uri ← Json.required? "textDocument" document? fields
  return closed uri

/-- Read the parameters of a notice that the configuration was changed. -/
def configured? (params : Json) : Option Notification := do
  let fields ← params.record? ["settings"]
  let settings ← Json.required? "settings" some fields
  return configured settings

/-- Read the parameters of the notice that the editor is ready: a record without fields. -/
def initialized? (params : Json) : Option Notification := do
  let _ ← params.record? []
  return initialized

/-- Read a notification. -/
def read (method : String) (params : Json) : Notification :=
  match method with
  | "exit" => exit
  | "initialized" => (initialized? params).getD ignored
  | "textDocument/didOpen" => (opened? params).getD ignored
  | "textDocument/didChange" => (changed? params).getD ignored
  | "textDocument/didClose" => (closed? params).getD ignored
  | "workspace/didChangeConfiguration" => (configured? params).getD ignored
  | _ => ignored

end Notification

namespace Event

/-- Read the parameters of a message. -/
def ofMessage : ClientMessage → Event
  | .request id method params => request id (.read method params)
  | .notification method params => notification (.read method params)
  | .response id result => response id result

end Event

end KarelLint.Session
