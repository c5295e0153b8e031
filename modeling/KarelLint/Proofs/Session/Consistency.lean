import Mathlib.Data.List.Nodup
import KarelLint.Proofs.Session.Effects

/-! The invariant of a session. Questions to the client carry numbers that were given out
before, each number is used once, a document has at most one open question and none if its
settings are known, and the server knows things about open documents only. -/

set_option autoImplicit false

namespace KarelLint.Session

/-! ## Numbers of requests -/

/-- A number below a bound: one that a server has used whose next number is the bound. -/
def RequestId.IssuedBefore (id : RequestId) (bound : Nat) : Prop :=
  ∃ number : Nat, number < bound ∧ id = .number number

namespace RequestId.IssuedBefore

variable {id : RequestId} {bound : Nat}

theorem mono {later : Nat} (issued : id.IssuedBefore bound) (below : bound ≤ later) :
    id.IssuedBefore later := by
  obtain ⟨number, small, same⟩ := issued
  exact ⟨number, Nat.lt_of_lt_of_le small below, same⟩

theorem ne (issued : id.IssuedBefore bound) : id ≠ .number bound := by
  obtain ⟨number, small, rfl⟩ := issued
  intro same
  injection same with same
  omega

theorem of_next (bound : Nat) : (RequestId.number bound).IssuedBefore (bound + 1) :=
  ⟨bound, Nat.lt_succ_self bound, rfl⟩

end RequestId.IssuedBefore

/-! ## The settings of documents -/

namespace Configuration

/-- What holds of the settings of documents between two operations. -/
structure Consistent (configuration : Configuration) (bound : Nat) : Prop where
  pendingIssued : ∀ question ∈ configuration.pending, question.1.IssuedBefore bound
  supersededIssued : ∀ id ∈ configuration.superseded, id.IssuedBefore bound
  current : ∀ question ∈ configuration.pending, question.1 ∉ configuration.superseded
  distinctIds : (configuration.pending.map (·.1)).Nodup
  distinctUris : (configuration.pending.map (·.2)).Nodup
  unanswered : ∀ question ∈ configuration.pending,
    configuration.cached.get? question.2 = none
  unasked : configuration.perDocument = false →
    configuration.pending = [] ∧ configuration.superseded = [] ∧
      ∀ uri, configuration.cached.get? uri = none

namespace Consistent

variable {configuration : Configuration} {bound : Nat}

theorem start (perDocument : Bool) (bound : Nat) :
    Consistent { perDocument } bound where
  pendingIssued := by simp
  supersededIssued := by simp
  current := by simp
  distinctIds := by simp
  distinctUris := by simp
  unanswered := by simp
  unasked := fun _ => ⟨rfl, rfl, fun _ => rfl⟩

theorem mono {later : Nat} (valid : configuration.Consistent bound) (below : bound ≤ later) :
    configuration.Consistent later :=
  { valid with
    pendingIssued := fun question member => (valid.pendingIssued question member).mono below
    supersededIssued := fun id member => (valid.supersededIssued id member).mono below }

theorem fresh (valid : configuration.Consistent bound) :
    ∀ question ∈ configuration.pending, question.1 ≠ .number bound :=
  fun question member => (valid.pendingIssued question member).ne

/-- Fewer questions, of which none has become known, are consistent too. -/
theorem of_sublist (valid : configuration.Consistent bound)
    {pending : List (RequestId × Uri)} {superseded : List RequestId}
    {cached : OrderedMap Uri Settings}
    (fewer : pending.Sublist configuration.pending)
    (known : ∀ id ∈ superseded, id ∈ configuration.superseded)
    (unanswered : ∀ question ∈ pending, cached.get? question.2 = none)
    (unasked : configuration.perDocument = false → ∀ uri, cached.get? uri = none) :
    Consistent { configuration with pending, superseded, cached } bound where
  pendingIssued := fun question member =>
    valid.pendingIssued question (fewer.subset member)
  supersededIssued := fun id member => valid.supersededIssued id (known id member)
  current := fun question member late =>
    valid.current question (fewer.subset member) (known question.1 late)
  distinctIds := (fewer.map _).nodup valid.distinctIds
  distinctUris := (fewer.map _).nodup valid.distinctUris
  unanswered := unanswered
  unasked := by
    intro shared
    obtain ⟨none, never, _⟩ := valid.unasked shared
    refine ⟨List.sublist_nil.mp (none ▸ fewer), ?_, unasked shared⟩
    apply List.eq_nil_iff_forall_not_mem.mpr
    intro id member
    have late := known id member
    rw [never] at late
    cases late

theorem asked (valid : configuration.Consistent bound) {uri : Uri}
    (asks : configuration.perDocument = true)
    (uncached : configuration.cached.get? uri = none)
    (idle : ∀ id, (id, uri) ∉ configuration.pending) :
    (configuration.asked (.number bound) uri).Consistent (bound + 1) := by
  have larger := valid.mono (Nat.le_succ bound)
  rw [asked_of_fresh valid.fresh]
  constructor
  case pendingIssued =>
    intro question member
    rcases List.mem_cons.mp member with rfl | old
    · exact .of_next bound
    · exact larger.pendingIssued question old
  case supersededIssued => exact larger.supersededIssued
  case current =>
    intro question member
    rcases List.mem_cons.mp member with rfl | old
    · intro late
      exact (valid.supersededIssued _ late).ne rfl
    · exact valid.current question old
  case distinctIds =>
    refine List.nodup_cons.mpr ⟨?_, valid.distinctIds⟩
    intro member
    obtain ⟨question, old, same⟩ := List.mem_map.mp member
    exact valid.fresh question old same
  case distinctUris =>
    refine List.nodup_cons.mpr ⟨?_, valid.distinctUris⟩
    intro member
    obtain ⟨⟨id, other⟩, old, rfl⟩ := List.mem_map.mp member
    exact idle id old
  case unanswered =>
    intro question member
    rcases List.mem_cons.mp member with rfl | old
    · exact uncached
    · exact valid.unanswered question old
  case unasked =>
    intro shared
    rw [asks] at shared
    cases shared

theorem change (valid : configuration.Consistent bound) (payload : Json) :
    (configuration.change payload).Consistent bound := by
  unfold Configuration.change
  split
  · next asks =>
      constructor
      case supersededIssued =>
        intro id member
        rcases List.mem_append.mp member with late | old
        · obtain ⟨question, open_, rfl⟩ := List.mem_map.mp late
          exact valid.pendingIssued question open_
        · exact valid.supersededIssued id old
      case unasked =>
        intro shared
        rw [asks] at shared
        cases shared
      all_goals simp
  · exact { valid with }

theorem forget (valid : configuration.Consistent bound) (uri : Uri) :
    (configuration.forget uri).Consistent bound := by
  apply valid.of_sublist List.filter_sublist (fun _ member => member)
  · intro question member
    rw [OrderedMap.get?_erase, valid.unanswered question (List.mem_of_mem_filter member)]
    exact ite_self none
  · intro shared other
    rw [OrderedMap.get?_erase, (valid.unasked shared).2.2 other]
    exact ite_self none

/-- Two open questions about one document are the same question. -/
theorem eq_of_uri (valid : configuration.Consistent bound) {first second : RequestId} {uri : Uri}
    (left : (first, uri) ∈ configuration.pending)
    (right : (second, uri) ∈ configuration.pending) : first = second :=
  congrArg Prod.fst (List.inj_on_of_nodup_map valid.distinctUris left right rfl)

theorem eq_of_id (valid : configuration.Consistent bound) {id : RequestId} {first second : Uri}
    (left : (id, first) ∈ configuration.pending)
    (right : (id, second) ∈ configuration.pending) : first = second :=
  congrArg Prod.snd (List.inj_on_of_nodup_map valid.distinctIds left right rfl)

/-- The one open question about a document. -/
theorem filter_uri (valid : configuration.Consistent bound) {id : RequestId} {uri : Uri}
    (waiting : (id, uri) ∈ configuration.pending) :
    (configuration.pending.filter fun question => question.2 == uri) = [(id, uri)] := by
  have distinct := valid.distinctUris
  obtain ⟨earlier, later, split⟩ := List.append_of_mem waiting
  rw [split, List.map_append, List.map_cons, List.nodup_append, List.nodup_cons] at distinct
  obtain ⟨_, ⟨notLater, _⟩, notEarlier⟩ := distinct
  have before : (earlier.filter fun question => question.2 == uri) = [] := by
    apply List.filter_eq_nil_iff.mpr
    intro question member same
    exact notEarlier _ (List.mem_map_of_mem member) uri List.mem_cons_self (eq_of_beq same)
  have after : (later.filter fun question => question.2 == uri) = [] := by
    apply List.filter_eq_nil_iff.mpr
    intro question member same
    apply notLater
    exact List.mem_map.mpr ⟨question, member, eq_of_beq same⟩
  rw [split, List.filter_append, before, List.filter_cons_of_pos (by simp), after]
  rfl

/-- The client is asked about documents if any question is open. -/
theorem asks_of_mem (valid : configuration.Consistent bound) {question : RequestId × Uri}
    (waiting : question ∈ configuration.pending) : configuration.perDocument = true := by
  cases asks : configuration.perDocument with
  | true => rfl
  | false =>
      rw [(valid.unasked asks).1] at waiting
      cases waiting

/-- The settings from the answer to an open question become known. -/
theorem accept (valid : configuration.Consistent bound) {id : RequestId} {uri : Uri}
    (waiting : (id, uri) ∈ configuration.pending) (settings : Settings) :
    Consistent
      { configuration with
        cached := configuration.cached.insert uri settings
        pending := configuration.pending.filter fun question => question.1 != id } bound := by
  apply valid.of_sublist List.filter_sublist (fun _ member => member)
  · rintro ⟨other, question⟩ member
    obtain ⟨old, kept⟩ := List.mem_filter.mp member
    have different : question ≠ uri := by
      rintro rfl
      have same : other = id := valid.eq_of_uri old waiting
      simp [same] at kept
    rw [OrderedMap.get?_insert_of_ne _ different]
    exact valid.unanswered _ old
  · intro shared
    rw [valid.asks_of_mem waiting] at shared
    cases shared

end Consistent

end Configuration

/-! ## The server -/

namespace Server

/-- A document that the editor has opened and not closed. -/
def IsOpen (server : Server) (uri : Uri) : Prop :=
  ∃ text, server.documents.get? uri = some text

/-- What holds of a server between two operations. -/
structure Consistent (server : Server) : Prop where
  configuration : server.configuration.Consistent server.nextId
  pendingOpen : ∀ question ∈ server.configuration.pending, server.IsOpen question.2
  cachedOpen : ∀ uri settings,
    server.configuration.cached.get? uri = some settings → server.IsOpen uri
  tablesOpen : ∀ uri table, server.tables.get? uri = some table → server.IsOpen uri

theorem isOpen_of_mem_keys {server : Server} {uri : Uri} (member : uri ∈ server.documents.keys) :
    server.IsOpen uri := by
  obtain ⟨entry, found, rfl⟩ := List.mem_map.mp member
  cases listed : server.documents.entries.lookup entry.1 with
  | none => simpa using List.lookup_eq_none_iff.mp listed entry found
  | some text => exact ⟨text, listed⟩

theorem mem_keys_of_get? {server : Server} {uri : Uri} {text : String}
    (found : server.documents.get? uri = some text) : uri ∈ server.documents.keys := by
  obtain ⟨earlier, later, split, _⟩ := List.lookup_eq_some_iff.mp found
  rw [OrderedMap.keys, split]
  simp

namespace Consistent

variable {server : Server}

theorem start (client : Client) : (Server.start client).Consistent where
  configuration := .start client.configuration 0
  pendingOpen := by simp [Server.start]
  cachedOpen := by simp [Server.start]
  tablesOpen := by simp [Server.start]

theorem publish (valid : server.Consistent) (uri : Uri) (settings : Settings) :
    (server.publish uri settings).1.Consistent := by
  unfold Server.publish
  split
  · exact valid
  · next text found =>
      refine { valid with tablesOpen := ?_ }
      intro other table stored
      rw [OrderedMap.get?_insert] at stored
      split at stored
      · next same => exact ⟨text, eq_of_beq same ▸ found⟩
      · exact valid.tablesOpen other table stored

theorem refresh (valid : server.Consistent) {uri : Uri} (opened : server.IsOpen uri) :
    (server.refresh uri).1.Consistent := by
  rcases server.refresh_cases uri with
    ⟨settings, _, done⟩ | ⟨_, _, done⟩ | ⟨asks, uncached, idle, done⟩
  · rw [done]
    exact valid.publish uri settings
  · rw [done]
    exact valid
  · rw [done]
    refine ⟨valid.configuration.asked asks uncached idle, ?_, valid.cachedOpen, valid.tablesOpen⟩
    intro question member
    rcases List.mem_cons.mp member with rfl | old
    · exact opened
    · exact valid.pendingOpen question (List.mem_of_mem_filter old)

end Consistent

/-! The documents that are open change only when the editor opens or closes one. -/

theorem publish_documents (server : Server) (uri : Uri) (settings : Settings) :
    (server.publish uri settings).1.documents = server.documents := by
  unfold publish
  split <;> rfl

theorem refresh_documents (server : Server) (uri : Uri) :
    (server.refresh uri).1.documents = server.documents := by
  rcases server.refresh_cases uri with ⟨settings, _, done⟩ | ⟨_, _, done⟩ | ⟨_, _, _, done⟩
  · rw [done, publish_documents]
  · rw [done]
  · rw [done]

theorem refreshAll_documents (server : Server) (order : List Uri) :
    (server.refreshAll order).1.documents = server.documents := by
  induction order generalizing server with
  | nil => rfl
  | cons uri later ih => rw [refreshAll_cons, ih, refresh_documents]

theorem IsOpen.refresh {server : Server} {uri : Uri} (opened : server.IsOpen uri) (other : Uri) :
    (server.refresh other).1.IsOpen uri := by
  obtain ⟨text, found⟩ := opened
  exact ⟨text, by rw [refresh_documents, found]⟩

theorem IsOpen.refreshAll {server : Server} {uri : Uri} (opened : server.IsOpen uri)
    (order : List Uri) : (server.refreshAll order).1.IsOpen uri := by
  obtain ⟨text, found⟩ := opened
  exact ⟨text, by rw [refreshAll_documents, found]⟩

namespace Consistent

variable {server : Server}

theorem refreshAll (valid : server.Consistent) {order : List Uri}
    (opened : ∀ uri ∈ order, server.IsOpen uri) :
    (server.refreshAll order).1.Consistent := by
  induction order generalizing server with
  | nil => exact valid
  | cons uri later ih =>
      rw [refreshAll_cons]
      apply ih (valid.refresh (opened uri List.mem_cons_self))
      intro other member
      unfold IsOpen
      rw [refresh_documents]
      exact opened other (List.mem_cons_of_mem _ member)

theorem insert (valid : server.Consistent) (uri : Uri) (text : String) :
    { server with documents := server.documents.insert uri text }.Consistent := by
  have kept (other : Uri) (opened : server.IsOpen other) :
      ∃ content, (server.documents.insert uri text).get? other = some content := by
    rw [OrderedMap.get?_insert]
    split
    · exact ⟨text, rfl⟩
    · exact opened
  constructor
  case configuration => exact valid.configuration
  case pendingOpen => exact fun question member => kept _ (valid.pendingOpen question member)
  case cachedOpen =>
    exact fun other settings known => kept _ (valid.cachedOpen other settings known)
  case tablesOpen => exact fun other table stored => kept _ (valid.tablesOpen other table stored)

theorem edit (valid : server.Consistent) (uri : Uri) (text : String) :
    (server.edit uri text).1.Consistent := by
  apply (valid.insert uri text).refresh
  exact ⟨text, OrderedMap.get?_insert_self _ uri text⟩

theorem close (valid : server.Consistent) (uri : Uri) : (server.close uri).Consistent := by
  have kept (other : Uri) (different : other ≠ uri) (opened : server.IsOpen other) :
      (server.close uri).IsOpen other := by
    unfold IsOpen Server.close
    rw [OrderedMap.get?_erase_of_ne _ different]
    exact opened
  constructor
  case configuration => exact valid.configuration.forget uri
  case pendingOpen =>
    intro question member
    obtain ⟨old, different⟩ := List.mem_filter.mp member
    exact kept _ (bne_iff_ne.mp different) (valid.pendingOpen question old)
  case cachedOpen =>
    intro other settings known
    simp only [Server.close, Configuration.forget, OrderedMap.get?_erase] at known
    split at known
    · cases known
    · next different =>
        exact kept other (by simpa using different) (valid.cachedOpen other settings known)
  case tablesOpen =>
    intro other table stored
    simp only [Server.close, OrderedMap.get?_erase] at stored
    split at stored
    · cases stored
    · next different =>
        exact kept other (by simpa using different) (valid.tablesOpen other table stored)

theorem change (valid : server.Consistent) (payload : Json) :
    { server with configuration := server.configuration.change payload }.Consistent := by
  refine ⟨valid.configuration.change payload, ?_, ?_, valid.tablesOpen⟩
  · intro question member
    unfold Configuration.change at member
    split at member
    · cases member
    · exact valid.pendingOpen question member
  · intro uri settings known
    unfold Configuration.change at known
    split at known
    · cases known
    · exact valid.cachedOpen uri settings known

theorem reconfigure (valid : server.Consistent) (payload : Json) {order : List Uri}
    (opened : ∀ uri ∈ order, server.IsOpen uri) :
    (server.reconfigure payload order).1.Consistent :=
  (valid.change payload).refreshAll opened

theorem register (valid : server.Consistent) : server.register.1.Consistent := by
  unfold Server.register
  split
  · exact { valid with configuration := valid.configuration.mono (Nat.le_succ _) }
  · exact valid

theorem accept (valid : server.Consistent) {id : RequestId} {uri : Uri}
    (waiting : (id, uri) ∈ server.configuration.pending) (settings : Settings) :
    (server.accept id uri settings).Consistent := by
  refine ⟨valid.configuration.accept waiting settings, ?_, ?_, valid.tablesOpen⟩
  · intro question member
    exact valid.pendingOpen question (List.mem_of_mem_filter member)
  · intro other known found
    by_cases same : other = uri
    · exact same ▸ valid.pendingOpen _ waiting
    · exact valid.cachedOpen other known ((OrderedMap.get?_insert_of_ne _ same _).symm.trans found)

theorem receive (valid : server.Consistent) (id : RequestId) (result : Json) :
    (server.receive id result).1.Consistent := by
  rcases server.receive_cases id result with ⟨_, taken⟩ | ⟨_, taken⟩ | ⟨uri, waiting, taken⟩
  · rw [taken]
    refine ⟨?_, valid.pendingOpen, valid.cachedOpen, valid.tablesOpen⟩
    apply valid.configuration.of_sublist (List.Sublist.refl _)
    · intro other member
      exact List.mem_of_mem_filter member
    · exact valid.configuration.unanswered
    · intro shared
      exact (valid.configuration.unasked shared).2.2
  · rw [taken]
    exact valid
  · rw [taken]
    exact (valid.accept waiting _).publish uri _

theorem notice (valid : server.Consistent) (notification : Notification) :
    (server.notice notification).1.Consistent := by
  cases notification with
  | initialized => exact valid.register
  | opened uri text => exact valid.edit uri text
  | changed uri texts =>
      rw [Server.notice]
      split
      · exact valid.edit uri _
      · exact valid
  | closed uri => exact valid.close uri
  | configured payload => exact valid.reconfigure payload fun _ member => isOpen_of_mem_keys member
  | exit => exact valid
  | ignored => exact valid

theorem step (valid : server.Consistent) (event : Event) : (server.step event).1.Consistent := by
  cases event with
  | request id request => exact valid
  | notification notification => exact valid.notice notification
  | response id result => exact valid.receive id result

theorem run (valid : server.Consistent) (events : List Event) :
    (server.run events).1.Consistent := by
  induction events generalizing server with
  | nil => exact valid
  | cons event later ih =>
      rw [run_cons]
      exact ih (valid.step event)

end Consistent

/-! ## The client of a session -/

/-- A server that knows what its client can do. -/
def Serves (server : Server) (client : Client) : Prop :=
  server.configuration.perDocument = client.configuration ∧
    server.relatedInformation = client.relatedInformation

namespace Serves

variable {server : Server} {client : Client}

theorem start (client : Client) : (Server.start client).Serves client := ⟨rfl, rfl⟩

theorem publish (serves : server.Serves client) (uri : Uri) (settings : Settings) :
    (server.publish uri settings).1.Serves client := by
  unfold Server.publish
  split
  · exact serves
  · exact serves

theorem refresh (serves : server.Serves client) (uri : Uri) :
    (server.refresh uri).1.Serves client := by
  rcases server.refresh_cases uri with ⟨settings, _, done⟩ | ⟨_, _, done⟩ | ⟨_, _, _, done⟩
  · rw [done]
    exact serves.publish uri settings
  · rw [done]
    exact serves
  · rw [done]
    exact serves

theorem refreshAll (serves : server.Serves client) (order : List Uri) :
    (server.refreshAll order).1.Serves client := by
  induction order generalizing server with
  | nil => exact serves
  | cons uri later ih =>
      rw [refreshAll_cons]
      exact ih (serves.refresh uri)

theorem edit (serves : server.Serves client) (uri : Uri) (text : String) :
    (server.edit uri text).1.Serves client := by
  apply refresh
  exact serves

theorem reconfigure (serves : server.Serves client) (payload : Json) (order : List Uri) :
    (server.reconfigure payload order).1.Serves client := by
  apply refreshAll
  unfold Configuration.change
  split
  · exact serves
  · exact serves

theorem notice (serves : server.Serves client) (notification : Notification) :
    (server.notice notification).1.Serves client := by
  cases notification with
  | initialized =>
      rw [Server.notice, Server.register]
      split
      · exact serves
      · exact serves
  | opened uri text => exact serves.edit uri text
  | changed uri texts =>
      rw [Server.notice]
      split
      · exact serves.edit uri _
      · exact serves
  | closed uri => exact serves
  | configured payload => exact serves.reconfigure payload _
  | exit => exact serves
  | ignored => exact serves

theorem step (serves : server.Serves client) (event : Event) :
    (server.step event).1.Serves client := by
  cases event with
  | request id request => exact serves
  | notification notification => exact serves.notice notification
  | response id result =>
      rw [Server.step]
      rcases server.receive_cases id result with ⟨_, taken⟩ | ⟨_, taken⟩ | ⟨uri, _, taken⟩
      · rw [taken]
        exact serves
      · rw [taken]
        exact serves
      · rw [taken]
        apply publish
        exact serves

theorem run (serves : server.Serves client) (events : List Event) :
    (server.run events).1.Serves client := by
  induction events generalizing server with
  | nil => exact serves
  | cons event later ih =>
      rw [run_cons]
      exact ih (serves.step event)

end Serves

end Server

end KarelLint.Session
