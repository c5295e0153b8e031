import KarelLint.Session.Server

/-! A connection from its first message to its end: the editor introduces itself, the server
answers, the editor says that it is ready, and the session proper starts. -/

set_option autoImplicit false

namespace KarelLint.Session

/-- How far a connection has come. -/
inductive Connection where
  /-- The editor has not introduced itself. -/
  | waiting
  /-- The server has answered, and the editor has not said that it is ready. -/
  | greeted (client : Client)
  /-- The session proper. -/
  | running (server : Server)
  /-- The connection is over, as it should be or because of a message out of turn. -/
  | ended (success : Bool)

namespace Connection

/-- The method of the request with which an editor introduces itself. -/
def initializeMethod : String := "initialize"

/-- Take a request before the editor has introduced itself. -/
def introduce (id : RequestId) (method : String) (params : Json) :
    Connection × List ServerMessage :=
  if method = initializeMethod then
    match Client.ofJson? params with
    | some client => (greeted client, [.answer id (.welcome client.workspaceFolders)])
    | none => (ended false, [])
  else (waiting, [.answer id .notInitialized])

/-- Take a message. Before the editor has introduced itself other requests are refused,
notifications are passed over, and anything else ends the connection. Then the next message
must be the notification that the editor is ready. The session proper ends with the
notification to exit, and nothing is sent after that. -/
def step : Connection → ClientMessage → Connection × List ServerMessage
  | waiting, .request id method params => introduce id method params
  | waiting, .notification method _ =>
      if method = "exit" then (ended false, []) else (waiting, [])
  | waiting, .response _ _ => (ended false, [])
  | greeted client, .notification method _ =>
      if method = "initialized" then (running (.start client), []) else (ended false, [])
  | greeted _, _ => (ended false, [])
  | running server, message =>
      match Event.ofMessage message with
      | .notification .exit => (ended true, [])
      | event =>
          let (server, sent) := server.step event
          (running server, sent)
  | ended success, _ => (ended success, [])

/-- Take what should be a message. Anything else ends the connection. -/
def receive (connection : Connection) (value : Json) : Connection × List ServerMessage :=
  match connection, ClientMessage.ofJson? value with
  | connection, some message => connection.step message
  | ended success, none => (ended success, [])
  | _, none => (ended false, [])

/-- Whether a connection succeeds if there are no more messages. -/
def succeeds : Connection → Bool
  | waiting | greeted _ => false
  | running _ => true
  | ended success => success

/-- Take what should be messages, one after the other. -/
def run (connection : Connection) : List Json → Connection × List ServerMessage
  | [] => (connection, [])
  | value :: later =>
      let (connection, first) := connection.receive value
      let (connection, rest) := connection.run later
      (connection, first ++ rest)

end Connection

end KarelLint.Session
