import KarelLint.Diagnosis.Report
import KarelLint.Session.Event

/-! The language server: what it keeps between two messages of the editor, and what it sends
because of one. -/

set_option autoImplicit false

namespace KarelLint.Session

open KarelLint.Diagnosis KarelLint.Source

/-- What the server keeps between two messages. -/
structure Server where
  /-- Whether the editor shows related information. -/
  relatedInformation : Bool
  /-- The texts of the open documents. -/
  documents : OrderedMap Uri String := ∅
  /-- The procedures of each document when it was last checked. -/
  tables : OrderedMap Uri SymbolTable := ∅
  configuration : Configuration
  /-- The number of the next request to the editor. -/
  nextId : Nat := 0

namespace Server

/-- The server at the start of a session. -/
def start (client : Client) : Server where
  relatedInformation := client.relatedInformation
  configuration := { perDocument := client.configuration }

/-- The identity of the next request to the editor. -/
def nextRequest (server : Server) : RequestId :=
  .number server.nextId

/-- Check a document with some settings and show its problems. A document that is not open
is left alone. -/
def publish (server : Server) (uri : Uri) (settings : Settings) : Server × List ServerMessage :=
  match server.documents.get? uri with
  | none => (server, [])
  | some text =>
      let report := check text settings.limit
      ({ server with tables := server.tables.insert uri report.table },
        [.publish uri server.relatedInformation (Diagnostic.ofProblems text report.problems)])

/-- Check a document now if its settings are known, and otherwise when they come. -/
def refresh (server : Server) (uri : Uri) : Server × List ServerMessage :=
  match server.configuration.consult uri server.nextRequest with
  | (_, .known settings) => server.publish uri settings
  | (_, .awaited) => (server, [])
  | (configuration, .missing) =>
      ({ server with configuration, nextId := server.nextId + 1 },
        [.askSettings server.nextRequest uri])

/-- Check some documents, one after the other. -/
def refreshAll (server : Server) : List Uri → Server × List ServerMessage
  | [] => (server, [])
  | uri :: later =>
      let (server, first) := server.refresh uri
      let (server, rest) := server.refreshAll later
      (server, first ++ rest)

/-- Give a document a text and check it. -/
def edit (server : Server) (uri : Uri) (text : String) : Server × List ServerMessage :=
  { server with documents := server.documents.insert uri text }.refresh uri

/-- Drop a document and what is known about it. -/
def close (server : Server) (uri : Uri) : Server :=
  { server with
    documents := server.documents.erase uri
    tables := server.tables.erase uri
    configuration := server.configuration.forget uri }

/-- Take a change of the configuration and check the open documents in a given order. -/
def reconfigure (server : Server) (payload : Json) (order : List Uri) :
    Server × List ServerMessage :=
  { server with configuration := server.configuration.change payload }.refreshAll order

/-- Ask to be told about changes of the configuration, if the editor is to be asked about
it. -/
def register (server : Server) : Server × List ServerMessage :=
  if server.configuration.perDocument then
    ({ server with nextId := server.nextId + 1 }, [.registerChanges server.nextRequest])
  else (server, [])

/-- The reply to a request. -/
def reply (server : Server) : Request → Reply
  | .completion uri => .completions (CompletionItem.all (server.tables.get? uri))
  | .resolve item => .resolved item.resolve
  | .shutdown => .done
  | .malformed => .invalidParams
  | .unknown method => .methodNotFound method

/-- Take a notification. After a change of the configuration the documents are checked in
the order of their references. -/
def notice (server : Server) : Notification → Server × List ServerMessage
  | .initialized => server.register
  | .opened uri text => server.edit uri text
  | .changed uri texts =>
      match texts.getLast? with
      | some text => server.edit uri text
      | none => (server, [])
  | .closed uri => (server.close uri, [])
  | .configured payload => server.reconfigure payload server.documents.keys
  | .exit | .ignored => (server, [])

/-- Take an answer of the editor. It may bring the settings for which a document waits. -/
def receive (server : Server) (id : RequestId) (result : Json) : Server × List ServerMessage :=
  match server.configuration.receive id result with
  | (configuration, none) => ({ server with configuration }, [])
  | (configuration, some (uri, settings)) =>
      { server with configuration }.publish uri settings

/-- Take a message. -/
def step (server : Server) : Event → Server × List ServerMessage
  | .request id request => (server, [.answer id (server.reply request)])
  | .notification notification => server.notice notification
  | .response id result => server.receive id result

/-- Take some messages, one after the other, and collect what is sent. -/
def run (server : Server) : List Event → Server × List ServerMessage
  | [] => (server, [])
  | event :: later =>
      let (server, first) := server.step event
      let (server, rest) := server.run later
      (server, first ++ rest)

end Server

end KarelLint.Session
