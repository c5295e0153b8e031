import KarelLint.Proofs.Session.History
import KarelLint.Session.Connection
import Mathlib.Data.List.Forall2

/-! The requests of an editor and the replies to them. Every request is answered once and at once,
whatever it asks for, and nothing else is answered. Requests, and notifications that cannot be read,
leave no trace in the server. -/

set_option autoImplicit false

namespace KarelLint.Session

/-! ## What can be read -/

namespace Request

/-- The methods of the requests that the server handles. -/
def methods : List String :=
  ["textDocument/completion", "completionItem/resolve", "shutdown"]

/-- The server handles a request, and cannot read its parameters. -/
def Unreadable (method : String) (params : Json) : Prop :=
  method = "textDocument/completion" ∧ completion? params = none ∨
    method = "completionItem/resolve" ∧ CompletionItem.ofJson? params = none

theorem exists_of_completion? {params : Json} {request : Request}
    (found : completion? params = some request) : ∃ uri, request = completion uri := by
  simp only [completion?, Option.bind_eq_bind, Option.bind_eq_some_iff, Option.pure_def] at found
  obtain ⟨_, _, uri, _, _, _, _, _, _, _, _, _, written⟩ := found
  exact ⟨uri, (Option.some.inj written).symm⟩

/-- A request that is handled is malformed exactly if its parameters cannot be read, and any other
request is unknown. -/
theorem read_cases (method : String) (params : Json) :
    (method ∉ methods ∧ read method params = unknown method) ∨
    (method ∈ methods ∧ Unreadable method params ∧ read method params = malformed) ∨
    (method ∈ methods ∧ ¬ Unreadable method params ∧
      ((∃ uri, read method params = completion uri) ∨ (∃ item, read method params = resolve item) ∨
        read method params = shutdown)) := by
  unfold read
  -- One case for each of the methods, and a last one for all others.
  split
  · refine .inr ?_
    cases found : completion? params with
    | none => exact .inl ⟨by decide, .inl ⟨rfl, found⟩, rfl⟩
    | some request =>
        obtain ⟨uri, rfl⟩ := exists_of_completion? found
        exact .inr ⟨by decide, by simp [Unreadable, found], .inl ⟨uri, rfl⟩⟩
  · refine .inr ?_
    cases found : CompletionItem.ofJson? params with
    | none => exact .inl ⟨by decide, .inr ⟨rfl, found⟩, rfl⟩
    | some item => exact .inr ⟨by decide, by simp [Unreadable, found], .inr (.inl ⟨item, rfl⟩)⟩
  · exact .inr (.inr ⟨by decide, by simp [Unreadable], .inr (.inr rfl)⟩)
  · next completion resolve shutdown =>
      refine .inl ⟨?_, rfl⟩
      intro listed
      simp only [methods, List.mem_cons, List.not_mem_nil, or_false] at listed
      rcases listed with same | same | same
      · exact completion same
      · exact resolve same
      · exact shutdown same

end Request

namespace Notification

/-- The notifications that the server acts on, each with the reader of its parameters. -/
def readers : List (String × (Json → Option Notification)) :=
  [("initialized", initialized?),
    ("textDocument/didOpen", opened?),
    ("textDocument/didChange", changed?),
    ("textDocument/didClose", closed?),
    ("workspace/didChangeConfiguration", configured?)]

/-- Read a notification that the server acts on. -/
def read? (method : String) (params : Json) : Option Notification :=
  (readers.lookup method).bind fun reader => reader params

theorem read_eq_getD {method : String} (other : method ≠ "exit") (params : Json) :
    read method params = (read? method params).getD ignored := by
  unfold read
  -- After the notification to exit come the readers in their order, and then all other methods.
  split
  · exact absurd rfl other
  · rfl
  · rfl
  · rfl
  · rfl
  · rfl
  · next initialized opened changed closed configured =>
      have unknown : readers.lookup method = none := by
        apply List.lookup_eq_none_iff.mpr
        intro entry listed
        simp only [readers, List.mem_cons, List.not_mem_nil, or_false] at listed
        rcases listed with rfl | rfl | rfl | rfl | rfl
        · simpa using initialized
        · simpa using opened
        · simpa using changed
        · simpa using closed
        · simpa using configured
      rw [read?, unknown]
      rfl

theorem read?_ne_exit (method : String) (params : Json) : read? method params ≠ some exit := by
  intro found
  obtain ⟨reader, known, found⟩ := Option.bind_eq_some_iff.mp found
  have listed := OrderedMap.mem_of_lookup known
  simp only [readers, List.mem_cons, List.not_mem_nil, or_false, Prod.mk.injEq] at listed
  rcases listed with ⟨_, rfl⟩ | ⟨_, rfl⟩ | ⟨_, rfl⟩ | ⟨_, rfl⟩ | ⟨_, rfl⟩
  · simp [initialized?, Option.bind_eq_some_iff] at found
  · simp [opened?, Option.bind_eq_some_iff] at found
  · simp [changed?, Option.bind_eq_some_iff] at found
  · simp [closed?, Option.bind_eq_some_iff] at found
  · simp [configured?, Option.bind_eq_some_iff] at found

theorem read_ne_exit {method : String} (other : method ≠ "exit") (params : Json) :
    read method params ≠ exit := by
  rw [read_eq_getD other]
  intro same
  cases found : read? method params with
  | none =>
      rw [found] at same
      cases same
  | some notification =>
      rw [found] at same
      exact read?_ne_exit method params (found.trans (congrArg some same))

end Notification

/-! ## What an answer says -/

theorem RequestId.toJson_inj {left right : RequestId} :
    left.toJson = right.toJson ↔ left = right := by
  cases left with
  | number first =>
      cases right with
      | number second => simp [toJson]
      | text second => simp [toJson]
  | text first =>
      cases right with
      | number second => simp [toJson]
      | text second => simp [toJson]

/-- A message is a response if it has an identity and no method. -/
def ServerMessage.isResponse (message : ServerMessage) : Bool :=
  (message.toJson.member? "id").isSome && (message.toJson.member? "method").isNone

/-- The code of the error in a response. -/
def errorCode? (response : Json) : Option Int := do
  let error ← response.member? "error"
  let code ← error.member? "code"
  code.int32?

/-- A response answers a request: it has the identity of the request, and either a result, or an
error because the method is unknown, or an error because the parameters cannot be read. -/
structure AnswersRequest (id : RequestId) (method : String) (params response : Json) : Prop where
  identity : ∀ other : RequestId, response.member? "id" = some other.toJson ↔ other = id
  unknown : errorCode? response = some (-32601) ↔ method ∉ Request.methods
  malformed : errorCode? response = some (-32602) ↔ Request.Unreadable method params
  succeeded : (response.member? "result").isSome = true ↔
    method ∈ Request.methods ∧ ¬ Request.Unreadable method params

/-- A message of the server answers a message of the editor, which is a request. -/
def Answers : ClientMessage → ServerMessage → Prop
  | .request id method params, message => AnswersRequest id method params message.toJson
  | .notification _ _, _ => False
  | .response _ _, _ => False

section Written

variable (id : RequestId) (reply : Reply)

theorem member?_id_answer : (ServerMessage.answer id reply).toJson.member? "id" = some id.toJson := by
  simp [ServerMessage.toJson, Json.member?]

theorem isResponse_answer : (ServerMessage.answer id reply).isResponse = true := by
  have noMethod : (ServerMessage.answer id reply).toJson.member? "method" = none := by
    simp only [ServerMessage.toJson, Json.member?, Reply.toMember]
    cases reply.error? with
    | none => rfl
    | some error => rfl
  rw [ServerMessage.isResponse, member?_id_answer, noMethod]
  rfl

theorem errorCode?_answer :
    errorCode? (ServerMessage.answer id reply).toJson = reply.error?.map (·.1) := by
  cases reply <;> rfl

theorem isSome_member?_result_answer :
    ((ServerMessage.answer id reply).toJson.member? "result").isSome = reply.error?.isNone := by
  simp only [ServerMessage.toJson, Json.member?, Reply.toMember]
  cases reply.error? with
  | none => rfl
  | some error => rfl

end Written

namespace Server

/-- Whether the reply to a request is an error, and which one, does not depend on the server. -/
theorem error?_reply_cases (server : Server) (method : String) (params : Json) :
    (method ∉ Request.methods ∧ ¬ Request.Unreadable method params ∧
      ((server.reply (.read method params)).error?.map (·.1)) = some (-32601)) ∨
    (method ∈ Request.methods ∧ Request.Unreadable method params ∧
      ((server.reply (.read method params)).error?.map (·.1)) = some (-32602)) ∨
    (method ∈ Request.methods ∧ ¬ Request.Unreadable method params ∧
      ((server.reply (.read method params)).error?.map (·.1)) = none) := by
  rcases Request.read_cases method params with
    ⟨unknown, read⟩ | ⟨known, unreadable, read⟩ | ⟨known, readable, read⟩
  · refine .inl ⟨unknown, ?_, by rw [read]; rfl⟩
    intro unreadable
    rcases unreadable with ⟨same, _⟩ | ⟨same, _⟩
    · exact unknown (by rw [same]; decide)
    · exact unknown (by rw [same]; decide)
  · exact .inr (.inl ⟨known, unreadable, by rw [read]; rfl⟩)
  · refine .inr (.inr ⟨known, readable, ?_⟩)
    rcases read with ⟨uri, read⟩ | ⟨item, read⟩ | read
    · rw [read]
      rfl
    · rw [read]
      rfl
    · rw [read]
      rfl

theorem answersRequest_reply (server : Server) (id : RequestId) (method : String) (params : Json) :
    AnswersRequest id method params
      (ServerMessage.answer id (server.reply (.read method params))).toJson := by
  have identity (other : RequestId) :
      (ServerMessage.answer id (server.reply (.read method params))).toJson.member? "id" =
        some other.toJson ↔ other = id := by
    rw [member?_id_answer, Option.some_inj, RequestId.toJson_inj, eq_comm]
  have succeeded := isSome_member?_result_answer id (server.reply (.read method params))
  rw [← Option.isNone_map (f := Prod.fst)] at succeeded
  rcases server.error?_reply_cases method params with
    ⟨unknown, readable, error⟩ | ⟨known, unreadable, error⟩ | ⟨known, readable, error⟩
  · rw [error] at succeeded
    exact ⟨identity, by simp [errorCode?_answer, error, unknown],
      by simp [errorCode?_answer, error, readable], by simp [succeeded, unknown]⟩
  · rw [error] at succeeded
    exact ⟨identity, by simp [errorCode?_answer, error, known],
      by simp [errorCode?_answer, error, unreadable], by simp [succeeded, unreadable]⟩
  · rw [error] at succeeded
    exact ⟨identity, by simp [errorCode?_answer, error, known],
      by simp [errorCode?_answer, error, readable], by simp [succeeded, known, readable]⟩

/-! ## What is not answered -/

/-- No message of a list is a response. -/
def Unanswering (messages : List ServerMessage) : Prop :=
  ∀ message ∈ messages, message.isResponse = false

namespace Unanswering

theorem nil : Unanswering [] := by
  simp [Unanswering]

theorem single {message : ServerMessage} (other : message.isResponse = false) :
    Unanswering [message] := by
  simpa [Unanswering] using other

theorem append {first second : List ServerMessage} (left : Unanswering first)
    (right : Unanswering second) : Unanswering (first ++ second) :=
  List.forall_mem_append.mpr ⟨left, right⟩

theorem filter_eq_nil {messages : List ServerMessage} (unanswering : Unanswering messages) :
    messages.filter ServerMessage.isResponse = [] := by
  apply List.filter_eq_nil_iff.mpr
  intro message member
  rw [unanswering message member]
  exact Bool.false_ne_true

theorem filter_eq_self {messages : List ServerMessage} (unanswering : Unanswering messages) :
    (messages.filter fun message => !message.isResponse) = messages := by
  apply List.filter_eq_self.mpr
  intro message member
  rw [unanswering message member]
  rfl

variable (server : Server)

theorem publish (uri : Uri) (settings : Settings) :
    Unanswering (server.publish uri settings).2 := by
  unfold Server.publish
  split
  · exact nil
  · exact single rfl

theorem refresh (uri : Uri) : Unanswering (server.refresh uri).2 := by
  rcases server.refresh_cases uri with ⟨settings, _, done⟩ | ⟨_, _, done⟩ | ⟨_, _, _, done⟩
  · rw [done]
    exact publish server uri settings
  · rw [done]
    exact nil
  · rw [done]
    exact single rfl

theorem refreshAll (order : List Uri) : Unanswering (server.refreshAll order).2 := by
  induction order generalizing server with
  | nil => exact nil
  | cons uri later ih => exact (refresh server uri).append (ih (server.refresh uri).1)

theorem register : Unanswering server.register.2 := by
  unfold Server.register
  split
  · exact single rfl
  · exact nil

theorem receive (id : RequestId) (result : Json) : Unanswering (server.receive id result).2 := by
  rcases server.receive_cases id result with ⟨_, taken⟩ | ⟨_, taken⟩ | ⟨uri, _, taken⟩
  · rw [taken]
    exact nil
  · rw [taken]
    exact nil
  · rw [taken]
    exact publish _ uri _

theorem notice (notification : Notification) : Unanswering (server.notice notification).2 := by
  cases notification with
  | initialized => exact register server
  | opened uri text => exact refresh _ uri
  | changed uri texts =>
      rw [Server.notice]
      split
      · exact refresh _ uri
      · exact nil
  | closed uri => exact nil
  | configured payload => exact refreshAll _ _
  | exit => exact nil
  | ignored => exact nil

end Unanswering

end Server

/-! ## Sessions -/

namespace ClientMessage

def isRequest : ClientMessage → Bool
  | request _ _ _ => true
  | notification _ _ => false
  | response _ _ => false

/-- The notification with which a session ends. -/
def isExit : ClientMessage → Bool
  | request _ _ _ => false
  | notification method _ => method == "exit"
  | response _ _ => false

/-- A message that the server acts on: a notification that it can read, or a response. -/
def isHeeded : ClientMessage → Bool
  | request _ _ _ => false
  | notification method params => (Notification.read? method params).isSome
  | response _ _ => true

theorem isRequest_of_isHeeded {message : ClientMessage} (heeded : message.isHeeded = true) :
    message.isRequest = false := by
  cases message with
  | request id method params => cases heeded
  | notification method params => rfl
  | response id result => rfl

end ClientMessage

namespace Server

variable (server : Server)

theorem step_of_unread {method : String} {params : Json}
    (unread : Notification.read? method params = none) :
    server.step (.ofMessage (.notification method params)) = (server, []) := by
  by_cases exit : method = "exit"
  · subst exit
    rfl
  · rw [Event.ofMessage, Notification.read_eq_getD exit, unread]
    rfl

theorem unanswering_step {message : ClientMessage} (other : message.isRequest = false) :
    Unanswering (server.step (.ofMessage message)).2 := by
  cases message with
  | request id method params => cases other
  | notification method params => exact Unanswering.notice server _
  | response id result => exact Unanswering.receive server id result

/-- The responses of a session answer its requests one by one. -/
theorem answers_run (messages : List ClientMessage) :
    List.Forall₂ Answers (messages.filter ClientMessage.isRequest)
      ((server.run (messages.map Event.ofMessage)).2.filter ServerMessage.isResponse) := by
  induction messages generalizing server with
  | nil => exact .nil
  | cons message later ih =>
      rw [List.map_cons, run_cons, List.filter_append]
      -- A request is answered at once, so its response stands before those to all later requests.
      cases kind : message.isRequest with
      | true =>
          cases message with
          | request id method params =>
              rw [List.filter_cons_of_pos rfl, Event.ofMessage, step,
                List.filter_cons_of_pos (isResponse_answer id _)]
              exact .cons (server.answersRequest_reply id method params) (ih server)
          | notification method params => cases kind
          | response id result => cases kind
      | false =>
          rw [List.filter_cons_of_neg (by simp [kind]), (server.unanswering_step kind).filter_eq_nil]
          exact ih _

/-- A message that the server does not act on changes nothing and sends at most a response. -/
theorem step_of_unheeded {message : ClientMessage} (unheeded : message.isHeeded = false) :
    (server.step (.ofMessage message)).1 = server ∧
      ((server.step (.ofMessage message)).2.filter fun sent => !sent.isResponse) = [] := by
  cases message with
  | request id method params =>
      refine ⟨rfl, ?_⟩
      rw [Event.ofMessage, step, List.filter_cons_of_neg (by simp [isResponse_answer])]
      rfl
  | notification method params =>
      have unread : Notification.read? method params = none := by
        simpa [ClientMessage.isHeeded] using unheeded
      rw [server.step_of_unread unread]
      exact ⟨rfl, rfl⟩
  | response id result => cases unheeded

/-- Without the messages that the server does not act on, a session ends alike and sends all but the
responses. -/
theorem run_heeded (messages : List ClientMessage) :
    server.run ((messages.filter ClientMessage.isHeeded).map Event.ofMessage) =
      ((server.run (messages.map Event.ofMessage)).1,
        (server.run (messages.map Event.ofMessage)).2.filter fun sent => !sent.isResponse) := by
  induction messages generalizing server with
  | nil => rfl
  | cons message later ih =>
      rw [List.map_cons, run_cons, List.filter_append]
      cases heeded : message.isHeeded with
      | true =>
          have unanswering := server.unanswering_step (ClientMessage.isRequest_of_isHeeded heeded)
          rw [List.filter_cons_of_pos heeded, List.map_cons, run_cons, ih, unanswering.filter_eq_self]
      | false =>
          -- The rest of the session starts from the same server as without the message.
          obtain ⟨unchanged, silent⟩ := server.step_of_unheeded heeded
          rw [List.filter_cons_of_neg (by simp [heeded]), ih, unchanged, silent, List.nil_append]

end Server

namespace Connection

/-- The messages of a session up to the notification to exit, or to a value that is no message. -/
def heard : List Json → List ClientMessage
  | [] => []
  | value :: later =>
      match ClientMessage.ofJson? value with
      | some message => if message.isExit then [] else message :: heard later
      | none => []

theorem heard_cons {value : Json} {message : ClientMessage}
    (read : ClientMessage.ofJson? value = some message) (later : List Json) :
    heard (value :: later) = if message.isExit then [] else message :: heard later := by
  rw [heard, read]

theorem run_cons (connection : Connection) (value : Json) (later : List Json) :
    connection.run (value :: later) =
      (((connection.receive value).1.run later).1,
        (connection.receive value).2 ++ ((connection.receive value).1.run later).2) := rfl

theorem receive_of_message {value : Json} {message : ClientMessage}
    (read : ClientMessage.ofJson? value = some message) (connection : Connection) :
    connection.receive value = connection.step message := by
  unfold receive
  rw [read]

/-- A connection that is over takes no more messages. -/
theorem run_ended (success : Bool) (values : List Json) :
    (ended success).run values = (ended success, []) := by
  induction values with
  | nil => rfl
  | cons value later ih =>
      have received : (ended success).receive value = (ended success, []) := by
        cases read : ClientMessage.ofJson? value with
        | none => simp only [receive, read]
        | some message => exact receive_of_message read _
      rw [run_cons, received, ih]
      rfl

theorem step_of_exit (server : Server) {message : ClientMessage} (exit : message.isExit = true) :
    (running server).step message = (ended true, []) := by
  cases message with
  | request id method params => cases exit
  | notification method params =>
      obtain rfl : method = "exit" := by simpa [ClientMessage.isExit] using exit
      rfl
  | response id result => cases exit

theorem step_of_other (server : Server) {message : ClientMessage} (other : message.isExit = false) :
    (running server).step message =
      (running (server.step (.ofMessage message)).1, (server.step (.ofMessage message)).2) := by
  cases message with
  | request id method params => rfl
  | notification method params =>
      have named : method ≠ "exit" := by simpa [ClientMessage.isExit] using other
      have acts := Notification.read_ne_exit named params
      rw [step, Event.ofMessage]
      cases read : Notification.read method params with
      | exit => exact absurd read acts
      | initialized => rfl
      | opened uri text => rfl
      | changed uri texts => rfl
      | closed uri => rfl
      | configured settings => rfl
      | ignored => rfl
  | response id result => rfl

/-- The session proper is a run of the server over the messages up to its end. -/
theorem run_running (server : Server) (values : List Json) :
    ((running server).run values).2 = (server.run ((heard values).map Event.ofMessage)).2 ∧
      ((heard values).length = values.length →
        ((running server).run values).1 =
          running (server.run ((heard values).map Event.ofMessage)).1) := by
  induction values generalizing server with
  | nil => exact ⟨rfl, fun _ => rfl⟩
  | cons value later ih =>
      cases read : ClientMessage.ofJson? value with
      | none =>
          have received : (running server).receive value = (ended false, []) := by
            simp only [receive, read]
          have deaf : heard (value :: later) = [] := by rw [heard, read]
          rw [run_cons, received, run_ended, deaf]
          exact ⟨rfl, fun complete => nomatch complete⟩
      | some message =>
          rw [run_cons, receive_of_message read, heard_cons read]
          cases exit : message.isExit with
          | true =>
              rw [step_of_exit server exit, run_ended]
              exact ⟨rfl, fun complete => nomatch complete⟩
          | false =>
              obtain ⟨sent, reached⟩ := ih (server.step (.ofMessage message)).1
              rw [step_of_other server exit, if_neg Bool.false_ne_true, List.map_cons,
                Server.run_cons, sent]
              exact ⟨rfl, fun complete => reached (Nat.succ.inj complete)⟩

end Connection

/-- Every request of a session is answered once, in the order of the requests, and nothing else is
answered. All else that is sent, and the server at the end, is what the readable notifications and
the responses alone lead to. No request changes the server, and a notification that cannot be read,
or whose method is unknown, neither changes it nor sends anything. -/
theorem requests_answered_once (server : Server) (values : List Json) :
    let heard := Connection.heard values
    let outcome := (Connection.running server).run values
    let heeded := server.run ((heard.filter ClientMessage.isHeeded).map Event.ofMessage)
    List.Forall₂ Answers (heard.filter ClientMessage.isRequest)
      (outcome.2.filter ServerMessage.isResponse) ∧
    (outcome.2.filter fun message => !message.isResponse) = heeded.2 ∧
    (heard.length = values.length → outcome.1 = .running heeded.1) ∧
    ∀ reached : Server,
      (∀ id method params, ∃ response,
        (Connection.running reached).step (.request id method params) =
          (.running reached, [response]) ∧ response.isResponse = true) ∧
      (∀ message : ClientMessage, message.isRequest = false →
        ∀ sent ∈ ((Connection.running reached).step message).2, sent.isResponse = false) ∧
      ∀ method params, method ≠ "exit" → Notification.read? method params = none →
        (Connection.running reached).step (.notification method params) =
          (.running reached, []) := by
  intro heard outcome heeded
  obtain ⟨sent, final⟩ := Connection.run_running server values
  have acted : heeded = _ := server.run_heeded heard
  refine ⟨?answered, ?others, ?state, ?steps⟩
  case answered =>
    rw [sent]
    exact server.answers_run heard
  case others => rw [acted, sent]
  case state =>
    intro complete
    rw [acted]
    exact final complete
  case steps =>
    intro reached
    refine ⟨?request, ?other, ?unread⟩
    case request =>
      intro id method params
      exact ⟨_, rfl, isResponse_answer id _⟩
    case other =>
      intro message other
      cases exit : message.isExit with
      | true =>
          rw [Connection.step_of_exit reached exit]
          exact Server.Unanswering.nil
      | false =>
          rw [Connection.step_of_other reached exit]
          exact reached.unanswering_step other
    case unread =>
      intro method params named unread
      have other : (ClientMessage.notification method params).isExit = false := by
        simpa [ClientMessage.isExit] using named
      rw [Connection.step_of_other reached other, reached.step_of_unread unread]

/-- Requests with the identities 1 and "1", among messages that cannot be read or mean nothing. -/
def mixedSession : List Json :=
  [.obj [("id", .int 1), ("method", .str "textDocument/completion"), ("params", .arr [])],
    .obj [("method", .str "textDocument/didOpen")],
    .obj [("id", .str "1"), ("method", .str "textDocument/hover")],
    .obj [("id", .int 0), ("result", .arr [.obj []])],
    .obj [("method", .str "$/setTrace"), ("params", .obj [("value", .str "off")])],
    .obj [("id", .int 1), ("method", .str "shutdown")]]

theorem requests_answered_once_mixedSession :
    let server := Server.start Server.askedClient
    let outcome := (Connection.running server).run mixedSession
    (Connection.heard mixedSession).length = mixedSession.length ∧
    List.Forall₂ Answers ((Connection.heard mixedSession).filter ClientMessage.isRequest)
      (outcome.2.filter ServerMessage.isResponse) ∧
    outcome.2.map (fun message => (message.toJson.member? "id").bind RequestId.ofJson?) =
      [some (.number 1), some (.text "1"), some (.number 1)] ∧
    outcome.2.map (fun message => errorCode? message.toJson) =
      [some (-32602), some (-32601), none] ∧
    outcome.1 = .running server ∧
    Notification.read? "textDocument/didOpen" .null = none ∧
    (Connection.running server).step (.notification "textDocument/didOpen" .null) =
      (.running server, []) := by
  intro server outcome
  have complete : (Connection.heard mixedSession).length = mixedSession.length := by decide
  have unread : Notification.read? "textDocument/didOpen" .null = none := rfl
  obtain ⟨answered, _, final, steps⟩ := requests_answered_once server mixedSession
  exact ⟨complete, answered, by decide, by decide, final complete, unread,
    (steps server).2.2 _ _ (by decide) unread⟩

end KarelLint.Session
