import KarelLint.Proofs.Session.Effects

/-! The history of a session: what the server received and what it sent, in the order in which
it happened. An answer of the client counts only if it comes after its question, so the order
between the two directions matters. -/

set_option autoImplicit false

namespace KarelLint.Session

/-- Something that happens in a session. -/
inductive Occurrence where
  | received (event : Event)
  | sent (message : ServerMessage)

namespace Occurrence

/-- The client is asked for the settings of a document. -/
def AsksAbout (uri : Uri) : Occurrence → Prop
  | sent (.askSettings _ other) => other = uri
  | _ => False

/-- The client answers a request. -/
def Answers (id : RequestId) : Occurrence → Prop
  | received (.response other _) => other = id
  | _ => False

/-- The problems of a document are shown. -/
def Shows (uri : Uri) : Occurrence → Prop
  | sent (.publish other _ _) => other = uri
  | _ => False

/-- The message that is sent, if one is. -/
def message? : Occurrence → Option ServerMessage
  | sent message => some message
  | received _ => none

end Occurrence

/-- An occurrence that is in a log and after which nothing relevant happens. -/
def LastOf (relevant : Occurrence → Prop) (log : List Occurrence) (occurrence : Occurrence) :
    Prop :=
  ∃ earlier later, log = earlier ++ occurrence :: later ∧ ∀ other ∈ later, ¬ relevant other

namespace LastOf

variable {relevant : Occurrence → Prop} {log : List Occurrence} {occurrence : Occurrence}

theorem append (last : LastOf relevant log occurrence) {more : List Occurrence}
    (irrelevant : ∀ other ∈ more, ¬ relevant other) :
    LastOf relevant (log ++ more) occurrence := by
  obtain ⟨earlier, later, rfl, quiet⟩ := last
  refine ⟨earlier, later ++ more, by simp, ?_⟩
  intro other member
  rcases List.mem_append.mp member with old | new
  · exact quiet other old
  · exact irrelevant other new

theorem of_end (relevant : Occurrence → Prop) (log : List Occurrence) (occurrence : Occurrence) :
    LastOf relevant (log ++ [occurrence]) occurrence :=
  ⟨log, [], rfl, by simp⟩

end LastOf

namespace Server

/-- What happens when a server takes one message. -/
def exchange (server : Server) (event : Event) : List Occurrence :=
  .received event :: (server.step event).2.map .sent

/-- What happens when a server takes some messages, one after the other. -/
def log (server : Server) : List Event → List Occurrence
  | [] => []
  | event :: later => server.exchange event ++ (server.step event).1.log later

/-- The messages of a log are those that the run sends. -/
theorem filterMap_message?_log (server : Server) (events : List Event) :
    (server.log events).filterMap Occurrence.message? = (server.run events).2 := by
  induction events generalizing server with
  | nil => rfl
  | cons event later ih =>
      have sent : ((server.step event).2.map Occurrence.sent).filterMap Occurrence.message? =
          (server.step event).2 := by
        rw [List.filterMap_map]
        exact List.filterMap_some
      rw [log, exchange, run_cons, List.filterMap_append, ih, List.filterMap_cons, sent]
      rfl

/-! A client and documents for concrete sessions. -/

def askedClient : Client where
  configuration := true
  workspaceFolders := false
  relatedInformation := false

def sampleUri : Uri where
  text := "a"
  wellFormed := by decide

def secondUri : Uri where
  text := "b"
  wellFormed := by decide

end Server

end KarelLint.Session
