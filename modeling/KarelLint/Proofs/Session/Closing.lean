import KarelLint.Proofs.Session.Frames
import KarelLint.Proofs.Session.Requests
import KarelLint.Proofs.Session.StaleAnswers

/-! Closing a document erases it. Until the document gets a text again nothing is sent about it,
and when it is opened again its problems are shown only after a new question about its settings
has been answered. -/

set_option autoImplicit false

namespace KarelLint.Session

open KarelLint.Diagnosis

namespace Server

/-! ## Closed documents -/

section Closed

variable {server : Server} {uri : Uri}

end Closed

/-! ## Documents whose settings are not known yet -/

/-- A document about whose settings the client has not answered since some messages were sent.
If a question about it is open, then it is one of these messages. -/
structure Unanswered (server : Server) (sent : List ServerMessage) (uri : Uri) : Prop where
  asks : server.configuration.perDocument = true
  uncached : server.configuration.cached.get? uri = none
  recent : ∀ id, (id, uri) ∈ server.configuration.pending →
    ServerMessage.askSettings id uri ∈ sent
  unshown : ∀ message ∈ sent, message.shown? ≠ some uri

namespace Unanswered

variable {server : Server} {sent : List ServerMessage} {uri : Uri}

theorem of_spares (unanswered : server.Unanswered sent uri)
    {outcome : Server × List ServerMessage} (spares : Spares uri server outcome) :
    outcome.1.Unanswered (sent ++ outcome.2) uri where
  asks := spares.frame.client.trans unanswered.asks
  uncached := spares.frame.cached.trans unanswered.uncached
  recent := fun id waiting =>
    List.mem_append_left _ (unanswered.recent id ((spares.frame.pending id).mp waiting))
  unshown := List.forall_mem_append.mpr ⟨unanswered.unshown, fun message late shown =>
    spares.silent message late (ServerMessage.mentions_of_shown? shown)⟩

/-- The check of a document without settings sends at most a question about it. -/
theorem refresh_self (unanswered : server.Unanswered sent uri) :
    (server.refresh uri).1.Unanswered (sent ++ (server.refresh uri).2) uri := by
  rcases server.refresh_cases uri with
    ⟨settings, known, _⟩ | ⟨_, _, done⟩ | ⟨asks, uncached, _, done⟩
  · rw [Configuration.settings?_of_uncached unanswered.asks unanswered.uncached] at known
    cases known
  · rw [done]
    simpa using unanswered
  · rw [done]
    refine ⟨asks, uncached, ?_, ?_⟩
    · intro id waiting
      rcases List.mem_cons.mp waiting with same | old
      · cases same
        exact List.mem_append_right _ List.mem_cons_self
      · exact List.mem_append_left _ (unanswered.recent id (List.mem_of_mem_filter old))
    · refine List.forall_mem_append.mpr ⟨unanswered.unshown, ?_⟩
      intro message member
      rw [List.mem_singleton.mp member]
      exact nofun

theorem refresh (unanswered : server.Unanswered sent uri) (valid : server.Consistent)
    (other : Uri) :
    (server.refresh other).1.Unanswered (sent ++ (server.refresh other).2) uri := by
  by_cases same : other = uri
  · subst same
    exact unanswered.refresh_self
  · exact unanswered.of_spares (.refresh valid same)

theorem refreshAll (unanswered : server.Unanswered sent uri) (valid : server.Consistent)
    {order : List Uri} (opened : ∀ other ∈ order, server.IsOpen other) :
    (server.refreshAll order).1.Unanswered (sent ++ (server.refreshAll order).2) uri := by
  induction order generalizing server sent with
  | nil => simpa using unanswered
  | cons first later ih =>
      rw [refreshAll_cons, ← List.append_assoc]
      exact ih (unanswered.refresh valid first) (valid.refresh (opened first List.mem_cons_self))
        fun other member => (opened other (List.mem_cons_of_mem _ member)).refresh first

theorem edit (unanswered : server.Unanswered sent uri) (valid : server.Consistent) (other : Uri)
    (text : String) :
    (server.edit other text).1.Unanswered (sent ++ (server.edit other text).2) uri := by
  have opened : { server with documents := server.documents.insert other text }.Unanswered
      sent uri := { unanswered with }
  exact opened.refresh (valid.insert other text) other

theorem close (unanswered : server.Unanswered sent uri) (other : Uri) :
    (server.close other).Unanswered sent uri := by
  refine { unanswered with uncached := ?_, recent := ?_ }
  · rw [Server.close, Configuration.forget, OrderedMap.get?_erase, unanswered.uncached]
    exact ite_self none
  · intro id waiting
    exact unanswered.recent id (List.mem_of_mem_filter waiting)

theorem reconfigure (unanswered : server.Unanswered sent uri) (valid : server.Consistent)
    (payload : Json) :
    (server.reconfigure payload server.documents.keys).1.Unanswered
      (sent ++ (server.reconfigure payload server.documents.keys).2) uri := by
  have changed : { server with configuration := server.configuration.change payload }.Unanswered
      sent uri := by
    rw [Configuration.change, if_pos unanswered.asks]
    refine ⟨unanswered.asks, rfl, ?_, unanswered.unshown⟩
    intro id waiting
    cases waiting
  exact changed.refreshAll (valid.change payload) fun _ member => isOpen_of_mem_keys member

theorem notice (unanswered : server.Unanswered sent uri) (valid : server.Consistent)
    (notification : Notification) :
    (server.notice notification).1.Unanswered (sent ++ (server.notice notification).2) uri := by
  cases notification with
  | initialized => exact unanswered.of_spares (.register uri server)
  | opened other text => exact unanswered.edit valid other text
  | changed other texts =>
      rw [Server.notice]
      cases texts.getLast? with
      | none => exact unanswered.of_spares (.refl uri server)
      | some text => exact unanswered.edit valid other text
  | closed other => simpa [Server.notice] using unanswered.close other
  | configured payload => exact unanswered.reconfigure valid payload
  | exit => exact unanswered.of_spares (.refl uri server)
  | ignored => exact unanswered.of_spares (.refl uri server)

/-- Only an answer to an open question about the document changes that. -/
theorem step (unanswered : server.Unanswered sent uri) (valid : server.Consistent)
    (event : Event) :
    (∃ id result, event = .response id result ∧ (id, uri) ∈ server.configuration.pending) ∨
      (server.step event).1.Unanswered (sent ++ (server.step event).2) uri := by
  cases event with
  | request id request => exact .inr (unanswered.of_spares (.answer uri server id _))
  | notification notification => exact .inr (unanswered.notice valid notification)
  | response id result =>
      by_cases waiting : (id, uri) ∈ server.configuration.pending
      · exact .inl ⟨id, result, rfl, waiting⟩
      · exact .inr (unanswered.of_spares (.receive valid waiting result))

end Unanswered

/-- The answer to an open question shows the problems of the document under the settings that
it brings. -/
theorem receive_shows {server : Server} {uri : Uri} (valid : server.Consistent) {id : RequestId}
    (waiting : (id, uri) ∈ server.configuration.pending) (result : Json) :
    ∃ content, server.documents.get? uri = some content ∧
      (server.step (.response id result)).2 =
        [.publish uri server.relatedInformation (Diagnostic.ofProblems content
          (check content (Configuration.answered result).limit).problems)] := by
  obtain ⟨content, found⟩ := valid.pendingOpen _ waiting
  refine ⟨content, found, ?_⟩
  rw [step, receive_of_mem valid waiting]
  have opened : (server.accept id uri (Configuration.answered result)).documents.get? uri =
      some content := found
  rw [publish_of_open opened]
  rfl

theorem Unanswered.run {server : Server} {sent : List ServerMessage} {uri : Uri}
    (unanswered : server.Unanswered sent uri) (valid : server.Consistent) {events : List Event}
    (unshown : ∀ message ∈ (server.run events).2, message.shown? ≠ some uri) :
    (server.run events).1.Unanswered (sent ++ (server.run events).2) uri := by
  induction events generalizing server sent with
  | nil => simpa using unanswered
  | cons event later ih =>
      rw [run_cons] at unshown ⊢
      rcases unanswered.step valid event with ⟨id, result, rfl, waiting⟩ | still
      · obtain ⟨content, _, shown⟩ := receive_shows valid waiting result
        rw [shown] at unshown
        exact absurd rfl (unshown _ (List.mem_append_left _ List.mem_cons_self))
      · rw [← List.append_assoc]
        exact ih still (valid.step event) fun message member =>
          unshown message (List.mem_append_right _ member)

/-! ## Opening again -/

end Server

end KarelLint.Session
