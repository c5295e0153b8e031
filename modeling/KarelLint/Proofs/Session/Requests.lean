import KarelLint.Proofs.Session.Consistency
import KarelLint.Proofs.Session.History

/-! What a session keeps about its requests to the client. They are numbered one by one, so no
number is sent twice. Questions, settings and tables belong to open documents, so no check is
given up for want of a text. A client that is not to be asked gets no request. -/

set_option autoImplicit false

namespace KarelLint.Session

/-- The identity of a message that the client is to answer. -/
def ServerMessage.request? : ServerMessage → Option RequestId
  | askSettings id _ => some id
  | registerChanges id => some id
  | answer _ _ => none
  | publish _ _ _ => none

namespace Server

/-! ## Numbers -/

/-- The requests of an operation carry the numbers from the next one of the server before it to
the next one of the server after it, and there are none unless the client is to be asked. -/
structure Issues (server : Server) (outcome : Server × List ServerMessage) : Prop where
  numbered : ∃ count, outcome.1.nextId = server.nextId + count ∧
    outcome.2.filterMap ServerMessage.request? =
      (List.range' server.nextId count).map fun number : Nat => RequestId.number number
  unasked : server.configuration.perDocument = false → outcome.1.nextId = server.nextId
  client : outcome.1.configuration.perDocument = server.configuration.perDocument

namespace Issues

theorem silent {server next : Server} {messages : List ServerMessage}
    (quiet : messages.filterMap ServerMessage.request? = [])
    (number : next.nextId = server.nextId)
    (client : next.configuration.perDocument = server.configuration.perDocument) :
    server.Issues (next, messages) where
  numbered := ⟨0, number, quiet⟩
  unasked := fun _ => number
  client := client

theorem single {server next : Server} {message : ServerMessage}
    (request : message.request? = some server.nextRequest)
    (number : next.nextId = server.nextId + 1)
    (asks : server.configuration.perDocument = true)
    (client : next.configuration.perDocument = server.configuration.perDocument) :
    server.Issues (next, [message]) where
  numbered := ⟨1, number, by simp [request, nextRequest]⟩
  unasked := by simp [asks]
  client := client

theorem trans {server middle last : Server} {first second : List ServerMessage}
    (left : server.Issues (middle, first)) (right : middle.Issues (last, second)) :
    server.Issues (last, first ++ second) := by
  obtain ⟨earlier, reached, sentFirst⟩ := left.numbered
  obtain ⟨later, final, sentSecond⟩ := right.numbered
  simp only at reached final sentFirst sentSecond
  constructor
  case numbered =>
    refine ⟨earlier + later, by simp only; omega, ?_⟩
    rw [List.filterMap_append, sentFirst, sentSecond, ← List.map_append, reached,
      List.range'_append_1]
  case unasked =>
    intro shared
    have before := left.unasked shared
    have after := right.unasked (left.client.trans shared)
    simp only at before after ⊢
    omega
  case client => exact right.client.trans left.client

theorem publish (server : Server) (uri : Uri) (settings : Settings) :
    server.Issues (server.publish uri settings) := by
  unfold Server.publish
  split
  · exact silent rfl rfl rfl
  · exact silent rfl rfl rfl

theorem refresh (server : Server) (uri : Uri) : server.Issues (server.refresh uri) := by
  rcases server.refresh_cases uri with ⟨settings, _, done⟩ | ⟨_, _, done⟩ | ⟨asks, _, _, done⟩
  · rw [done]
    exact publish server uri settings
  · rw [done]
    exact silent rfl rfl rfl
  · rw [done]
    exact single rfl rfl asks rfl

theorem refreshAll (server : Server) (order : List Uri) :
    server.Issues (server.refreshAll order) := by
  induction order generalizing server with
  | nil => exact silent rfl rfl rfl
  | cons uri later ih =>
      rw [refreshAll_cons]
      exact (refresh server uri).trans (ih (server.refresh uri).1)

/-- What an operation does to other parts of the server beforehand does not matter. -/
theorem of_eq {server changed : Server} {outcome : Server × List ServerMessage}
    (issues : changed.Issues outcome) (number : changed.nextId = server.nextId)
    (client : changed.configuration.perDocument = server.configuration.perDocument) :
    server.Issues outcome :=
  (silent rfl number client : server.Issues (changed, [])).trans issues

theorem edit (server : Server) (uri : Uri) (text : String) :
    server.Issues (server.edit uri text) :=
  (refresh _ uri).of_eq rfl rfl

theorem reconfigure (server : Server) (payload : Json) (order : List Uri) :
    server.Issues (server.reconfigure payload order) := by
  have issues := refreshAll
    { server with configuration := server.configuration.change payload } order
  refine issues.of_eq rfl ?_
  unfold Configuration.change
  split
  · rfl
  · rfl

theorem register (server : Server) : server.Issues server.register := by
  unfold Server.register
  split
  · next asks => exact single rfl rfl asks rfl
  · exact silent rfl rfl rfl

theorem receive (server : Server) (id : RequestId) (result : Json) :
    server.Issues (server.receive id result) := by
  rcases server.receive_cases id result with ⟨_, taken⟩ | ⟨_, taken⟩ | ⟨uri, _, taken⟩
  · rw [taken]
    exact silent rfl rfl rfl
  · rw [taken]
    exact silent rfl rfl rfl
  · rw [taken]
    exact (publish _ uri _).of_eq rfl rfl

theorem notice (server : Server) (notification : Notification) :
    server.Issues (server.notice notification) := by
  cases notification with
  | initialized => exact register server
  | opened uri text => exact edit server uri text
  | changed uri texts =>
      rw [Server.notice]
      split
      · exact edit server uri _
      · exact silent rfl rfl rfl
  | closed uri => exact silent rfl rfl rfl
  | configured payload => exact reconfigure server payload _
  | exit => exact silent rfl rfl rfl
  | ignored => exact silent rfl rfl rfl

theorem step (server : Server) (event : Event) : server.Issues (server.step event) := by
  cases event with
  | request id request => exact silent rfl rfl rfl
  | notification notification => exact notice server notification
  | response id result => exact receive server id result

theorem run (server : Server) (events : List Event) : server.Issues (server.run events) := by
  induction events generalizing server with
  | nil => exact silent rfl rfl rfl
  | cons event later ih =>
      rw [run_cons]
      exact (step server event).trans (ih (server.step event).1)

theorem nodup {server : Server} {outcome : Server × List ServerMessage}
    (issues : server.Issues outcome) :
    (outcome.2.filterMap ServerMessage.request?).Nodup := by
  obtain ⟨count, _, sent⟩ := issues.numbered
  rw [sent]
  apply List.Nodup.map _ List.nodup_range'
  intro left right same
  injection same with same
  omega

theorem eq_nil_of_unasked {server : Server} {outcome : Server × List ServerMessage}
    (issues : server.Issues outcome) (shared : server.configuration.perDocument = false) :
    outcome.2.filterMap ServerMessage.request? = [] := by
  obtain ⟨count, reached, sent⟩ := issues.numbered
  have unchanged := issues.unasked shared
  have none : count = 0 := by omega
  rw [sent, none]
  rfl

end Issues

/-! ## Checks of open documents only

The server gives up a check when the document is not open. Below is a server that fails there
instead; it does everything else alike. -/

/-- Check a document, which must be open. -/
def publish? (server : Server) (uri : Uri) (settings : Settings) :
    Option (Server × List ServerMessage) :=
  if server.documents.contains uri then some (server.publish uri settings) else none

def refresh? (server : Server) (uri : Uri) : Option (Server × List ServerMessage) :=
  match server.configuration.availability uri with
  | .known settings => server.publish? uri settings
  | _ => some (server.refresh uri)

def refreshAll? (server : Server) : List Uri → Option (Server × List ServerMessage)
  | [] => some (server, [])
  | uri :: later => do
      let (server, first) ← server.refresh? uri
      let (server, rest) ← server.refreshAll? later
      return (server, first ++ rest)

def edit? (server : Server) (uri : Uri) (text : String) : Option (Server × List ServerMessage) :=
  { server with documents := server.documents.insert uri text }.refresh? uri

def notice? (server : Server) : Notification → Option (Server × List ServerMessage)
  | .opened uri text => server.edit? uri text
  | .changed uri texts =>
      match texts.getLast? with
      | some text => server.edit? uri text
      | none => some (server, [])
  | .configured payload =>
      { server with configuration := server.configuration.change payload }.refreshAll?
        server.documents.keys
  | other => some (server.notice other)

def receive? (server : Server) (id : RequestId) (result : Json) :
    Option (Server × List ServerMessage) :=
  match server.configuration.receive id result with
  | (configuration, none) => some ({ server with configuration }, [])
  | (configuration, some (uri, settings)) => { server with configuration }.publish? uri settings

def step? (server : Server) : Event → Option (Server × List ServerMessage)
  | .notification notification => server.notice? notification
  | .response id result => server.receive? id result
  | event => some (server.step event)

def run? (server : Server) : List Event → Option (Server × List ServerMessage)
  | [] => some (server, [])
  | event :: later => do
      let (server, first) ← server.step? event
      let (server, rest) ← server.run? later
      return (server, first ++ rest)

theorem contains_documents_iff {server : Server} {uri : Uri} :
    server.documents.contains uri = true ↔ server.IsOpen uri := by
  rw [OrderedMap.contains, Option.isSome_iff_exists, IsOpen]

theorem publish?_of_open {server : Server} {uri : Uri} (opened : server.IsOpen uri)
    (settings : Settings) : server.publish? uri settings = some (server.publish uri settings) := by
  rw [publish?, if_pos (contains_documents_iff.mpr opened)]

theorem refresh?_of_open {server : Server} {uri : Uri} (opened : server.IsOpen uri) :
    server.refresh? uri = some (server.refresh uri) := by
  cases available : server.configuration.availability uri with
  | known settings =>
      simp [refresh?, refresh, Configuration.consult, available, publish?_of_open opened]
  | awaited => simp [refresh?, available]
  | missing => simp [refresh?, available]

theorem refreshAll?_of_open {server : Server} {order : List Uri}
    (opened : ∀ uri ∈ order, server.IsOpen uri) :
    server.refreshAll? order = some (server.refreshAll order) := by
  induction order generalizing server with
  | nil => rfl
  | cons uri later ih =>
      have remaining : ∀ other ∈ later, (server.refresh uri).1.IsOpen other := by
        intro other member
        obtain ⟨text, found⟩ := opened other (List.mem_cons_of_mem _ member)
        exact ⟨text, by rw [refresh_documents, found]⟩
      simp [refreshAll?, refreshAll_cons, refresh?_of_open (opened uri List.mem_cons_self),
        ih remaining]

theorem edit?_eq_some (server : Server) (uri : Uri) (text : String) :
    server.edit? uri text = some (server.edit uri text) :=
  refresh?_of_open ⟨text, OrderedMap.get?_insert_self _ uri text⟩

theorem notice?_eq_some (server : Server) (notification : Notification) :
    server.notice? notification = some (server.notice notification) := by
  cases notification with
  | opened uri text => exact edit?_eq_some server uri text
  | changed uri texts =>
      cases last : texts.getLast? with
      | none => simp [notice?, notice, last]
      | some text => simpa [notice?, notice, last] using edit?_eq_some server uri text
  | configured payload => exact refreshAll?_of_open fun _ member => isOpen_of_mem_keys member
  | initialized => rfl
  | closed uri => rfl
  | exit => rfl
  | ignored => rfl

namespace Consistent

variable {server : Server}

/-- An answer that counts is about an open document, because its question is. -/
theorem receive?_eq_some (valid : server.Consistent) (id : RequestId) (result : Json) :
    server.receive? id result = some (server.receive id result) := by
  rcases server.configuration.receive_cases id result with
    ⟨_, taken⟩ | ⟨_, taken⟩ | ⟨uri, _, waiting, taken⟩
  · simp [Server.receive?, Server.receive, taken]
  · simp [Server.receive?, Server.receive, taken]
  · obtain ⟨text, found⟩ := valid.pendingOpen _ waiting
    simp only [Server.receive?, Server.receive, taken]
    apply publish?_of_open
    exact ⟨text, found⟩

theorem step?_eq_some (valid : server.Consistent) (event : Event) :
    server.step? event = some (server.step event) := by
  cases event with
  | request id request => rfl
  | notification notification => exact notice?_eq_some server notification
  | response id result => exact valid.receive?_eq_some id result

theorem run?_eq_some (valid : server.Consistent) (events : List Event) :
    server.run? events = some (server.run events) := by
  induction events generalizing server with
  | nil => rfl
  | cons event later ih =>
      simp [Server.run?, run_cons, valid.step?_eq_some event, ih (valid.step event)]

/-! ## The invariant -/

theorem issued (valid : server.Consistent) {id : RequestId}
    (known : id ∈ server.configuration.pending.map (·.1) ∨
      id ∈ server.configuration.superseded) : id.IssuedBefore server.nextId := by
  rcases known with live | late
  · obtain ⟨question, member, rfl⟩ := List.mem_map.mp live
    exact valid.configuration.pendingIssued question member
  · exact valid.configuration.supersededIssued id late

theorem isOpen (valid : server.Consistent) {uri : Uri}
    (known : server.configuration.cached.contains uri = true ∨
      server.configuration.isWaiting uri = true ∨ server.tables.contains uri = true) :
    server.documents.contains uri = true := by
  rw [contains_documents_iff]
  rcases known with cached | waiting | tabled
  · obtain ⟨settings, found⟩ := Option.isSome_iff_exists.mp cached
    exact valid.cachedOpen uri settings found
  · obtain ⟨id, member⟩ := Configuration.isWaiting_iff.mp waiting
    exact valid.pendingOpen _ member
  · obtain ⟨table, found⟩ := Option.isSome_iff_exists.mp tabled
    exact valid.tablesOpen uri table found

theorem uncached (valid : server.Consistent) {uri : Uri}
    (waiting : server.configuration.isWaiting uri = true) :
    server.configuration.cached.contains uri = false := by
  obtain ⟨id, member⟩ := Configuration.isWaiting_iff.mp waiting
  have missing := valid.configuration.unanswered _ member
  simp only at missing
  rw [OrderedMap.contains, missing]
  rfl

end Consistent

/-- What holds of the settings of documents after any messages of a client. -/
theorem settings_invariant (client : Client) (events : List Event) :
    let server := ((start client).run events).1
    let requests := ((start client).run events).2.filterMap ServerMessage.request?
    (∀ id, id ∈ server.configuration.pending.map (·.1) ∨ id ∈ server.configuration.superseded →
      id.IssuedBefore server.nextId) ∧
    (∀ id ∈ server.configuration.pending.map (·.1), id ∉ server.configuration.superseded) ∧
    (server.configuration.pending.map (·.1)).Nodup ∧
    (server.configuration.pending.map (·.2)).Nodup ∧
    (∀ uri, server.configuration.isWaiting uri = true →
      server.configuration.cached.contains uri = false) ∧
    (∀ uri, server.configuration.cached.contains uri = true ∨
        server.configuration.isWaiting uri = true ∨ server.tables.contains uri = true →
      server.documents.contains uri = true) ∧
    (start client).run? events = some ((start client).run events) ∧
    requests.Nodup ∧
    (client.configuration = false →
      server.configuration.cached = ∅ ∧ server.configuration.pending = [] ∧
        server.configuration.superseded = [] ∧ requests = []) := by
  intro server requests
  have valid : server.Consistent := (Consistent.start client).run events
  have issues := Issues.run (start client) events
  refine ⟨fun _ => valid.issued, ?current, valid.configuration.distinctIds,
    valid.configuration.distinctUris, fun _ => valid.uncached, fun _ => valid.isOpen,
    (Consistent.start client).run?_eq_some events, issues.nodup, ?unasked⟩
  case current =>
    intro id member
    obtain ⟨question, live, rfl⟩ := List.mem_map.mp member
    exact valid.configuration.current question live
  case unasked =>
    intro shared
    obtain ⟨pending, superseded, cached⟩ :=
      valid.configuration.unasked (issues.client.trans shared)
    refine ⟨?_, pending, superseded, issues.eq_nil_of_unasked shared⟩
    exact OrderedMap.ext_get? fun uri => (cached uri).trans (OrderedMap.get?_empty uri).symm

end Server

end KarelLint.Session
