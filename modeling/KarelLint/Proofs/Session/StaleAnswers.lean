import KarelLint.Proofs.Session.Consistency
import KarelLint.Proofs.Session.History

/-! An answer that no open question waits for is not observed: nothing is sent because of it,
and everything that is sent later is sent as if it had never come. Such an answer can still
change the list of questions that are out of date, so two servers that differ in that list are
followed side by side. -/

set_option autoImplicit false

namespace KarelLint.Session.Server

/-- The same server with another list of questions that are out of date. -/
def withSuperseded (server : Server) (ids : List RequestId) : Server :=
  { server with configuration := { server.configuration with superseded := ids } }

/-! ## Operations that do not read the list -/

section Operations

variable (server : Server) (ids : List RequestId)

theorem publish_withSuperseded (uri : Uri) (settings : Settings) :
    (server.withSuperseded ids).publish uri settings =
      ((server.publish uri settings).1.withSuperseded ids, (server.publish uri settings).2) := by
  unfold publish withSuperseded
  cases server.documents.get? uri with
  | none => rfl
  | some text => rfl

theorem refresh_withSuperseded (uri : Uri) :
    (server.withSuperseded ids).refresh uri =
      ((server.refresh uri).1.withSuperseded ids, (server.refresh uri).2) := by
  have same : (server.withSuperseded ids).configuration.availability uri =
      server.configuration.availability uri := rfl
  unfold refresh Configuration.consult
  rw [same]
  cases server.configuration.availability uri with
  | known settings => exact publish_withSuperseded server ids uri settings
  | awaited => rfl
  | missing => rfl

theorem refreshAll_withSuperseded (order : List Uri) :
    (server.withSuperseded ids).refreshAll order =
      ((server.refreshAll order).1.withSuperseded ids, (server.refreshAll order).2) := by
  induction order generalizing server with
  | nil => rfl
  | cons uri later ih =>
      rw [refreshAll_cons, refreshAll_cons, refresh_withSuperseded, ih]

theorem edit_withSuperseded (uri : Uri) (text : String) :
    (server.withSuperseded ids).edit uri text =
      ((server.edit uri text).1.withSuperseded ids, (server.edit uri text).2) :=
  refresh_withSuperseded { server with documents := server.documents.insert uri text } ids uri

theorem register_withSuperseded :
    (server.withSuperseded ids).register =
      (server.register.1.withSuperseded ids, server.register.2) := by
  unfold register withSuperseded
  cases server.configuration.perDocument with
  | false => rfl
  | true => rfl

end Operations

/-! ## Steps and runs -/

variable {server : Server} {ids : List RequestId}

theorem reconfigure_withSuperseded (server : Server) (ids : List RequestId) (payload : Json)
    (order : List Uri) :
    ∃ later, (server.withSuperseded ids).reconfigure payload order =
      ((server.reconfigure payload order).1.withSuperseded later,
        (server.reconfigure payload order).2) := by
  cases asks : server.configuration.perDocument with
  | false =>
      refine ⟨ids, ?_⟩
      rw [reconfigure, reconfigure, ← refreshAll_withSuperseded]
      simp [Configuration.change, withSuperseded, asks]
  | true =>
      refine ⟨server.configuration.pending.map (·.1) ++ ids, ?_⟩
      rw [reconfigure, reconfigure, ← refreshAll_withSuperseded]
      simp [Configuration.change, withSuperseded, asks]

theorem notice_withSuperseded (server : Server) (ids : List RequestId)
    (notification : Notification) :
    ∃ later, (server.withSuperseded ids).notice notification =
      ((server.notice notification).1.withSuperseded later, (server.notice notification).2) := by
  cases notification with
  | initialized => exact ⟨ids, register_withSuperseded server ids⟩
  | opened uri text => exact ⟨ids, edit_withSuperseded server ids uri text⟩
  | changed uri texts =>
      refine ⟨ids, ?_⟩
      rw [notice, notice]
      cases texts.getLast? with
      | none => rfl
      | some text => exact edit_withSuperseded server ids uri text
  | closed uri => exact ⟨ids, rfl⟩
  | configured payload => exact reconfigure_withSuperseded server ids payload _
  | exit => exact ⟨ids, rfl⟩
  | ignored => exact ⟨ids, rfl⟩

/-- An answer that no open question waits for leaves all but the list as it is. -/
theorem receive_of_stale (server : Server) {id : RequestId}
    (stale : id ∉ server.configuration.pending.map (·.1)) (result : Json) :
    ∃ later, server.receive id result = (server.withSuperseded later, []) := by
  rcases server.receive_cases id result with ⟨_, taken⟩ | ⟨_, taken⟩ | ⟨uri, waiting, _⟩
  · exact ⟨_, taken⟩
  · exact ⟨server.configuration.superseded, taken⟩
  · exact False.elim (stale (List.mem_map_of_mem waiting))

theorem receive_of_mem (valid : server.Consistent) {id : RequestId} {uri : Uri}
    (waiting : (id, uri) ∈ server.configuration.pending) (result : Json) :
    server.receive id result =
      (server.accept id uri (Configuration.answered result)).publish uri
        (Configuration.answered result) := by
  rcases server.receive_cases id result with
    ⟨late, _⟩ | ⟨unknown, _⟩ | ⟨other, waiting', taken⟩
  · exact False.elim (valid.configuration.current _ waiting late)
  · exact False.elim (unknown uri waiting)
  · obtain rfl : other = uri := valid.configuration.eq_of_id waiting' waiting
    exact taken

/-- Whether an answer counts depends on the open questions alone, since these are never out of
date. -/
theorem receive_withSuperseded (valid : server.Consistent)
    (valid' : (server.withSuperseded ids).Consistent) (id : RequestId) (result : Json) :
    ∃ later, (server.withSuperseded ids).receive id result =
      ((server.receive id result).1.withSuperseded later, (server.receive id result).2) := by
  by_cases live : id ∈ server.configuration.pending.map (·.1)
  · obtain ⟨⟨_, uri⟩, waiting, rfl⟩ := List.mem_map.mp live
    refine ⟨ids, ?_⟩
    rw [receive_of_mem valid waiting, receive_of_mem valid' waiting, ← publish_withSuperseded]
    rfl
  · obtain ⟨first, left⟩ := receive_of_stale server live result
    obtain ⟨second, right⟩ := receive_of_stale (server.withSuperseded ids) live result
    exact ⟨second, by rw [left, right]; rfl⟩

theorem step_withSuperseded (valid : server.Consistent)
    (valid' : (server.withSuperseded ids).Consistent) (event : Event) :
    ∃ later, (server.withSuperseded ids).step event =
      ((server.step event).1.withSuperseded later, (server.step event).2) := by
  cases event with
  | request id request => exact ⟨ids, by cases request <;> rfl⟩
  | notification notification => exact notice_withSuperseded server ids notification
  | response id result => exact receive_withSuperseded valid valid' id result

theorem log_withSuperseded (valid : server.Consistent)
    (valid' : (server.withSuperseded ids).Consistent) (events : List Event) :
    (server.withSuperseded ids).log events = server.log events := by
  induction events generalizing server ids with
  | nil => rfl
  | cons event later ih =>
      obtain ⟨next, stepped⟩ := step_withSuperseded valid valid' event
      have after := valid'.step event
      rw [stepped] at after
      rw [log, log, exchange, exchange, stepped, ih (valid.step event) after]

/-- Stale answers are not observed. An answer whose question is not open when it comes, put in
at any point of a session, sends nothing, and what happens afterwards is what happens without
it. -/
theorem stale_answer_unobserved (client : Client) (earlier later : List Event) (id : RequestId)
    (result : Json)
    (stale : id ∉ ((start client).run earlier).1.configuration.pending.map (·.1)) :
    let reached := ((start client).run earlier).1
    (reached.step (.response id result)).2 = [] ∧
      (reached.step (.response id result)).1.log later = reached.log later ∧
      ((start client).run (earlier ++ .response id result :: later)).2 =
        ((start client).run (earlier ++ later)).2 := by
  intro reached
  have valid : reached.Consistent := (Consistent.start client).run earlier
  obtain ⟨ids, stepped⟩ := receive_of_stale reached stale result
  have after := valid.step (.response id result)
  have same : (reached.step (.response id result)).1.log later = reached.log later := by
    rw [step, stepped] at after ⊢
    exact log_withSuperseded valid after later
  have silent : (reached.step (.response id result)).2 = [] := by
    rw [step, stepped]
  have messages : ((reached.step (.response id result)).1.run later).2 = (reached.run later).2 := by
    rw [← filterMap_message?_log, same, filterMap_message?_log]
  refine ⟨silent, same, ?_⟩
  calc
    ((start client).run (earlier ++ .response id result :: later)).2
        = ((start client).run earlier).2 ++ ((reached.step (.response id result)).2 ++
            ((reached.step (.response id result)).1.run later).2) := by
          rw [run_append, run_cons]
    _ = ((start client).run earlier).2 ++ (reached.run later).2 := by
          rw [silent, messages, List.nil_append]
    _ = ((start client).run (earlier ++ later)).2 := by
          rw [run_append]

/-- A document is opened, and the configuration changes before the client has answered. -/
def supersededQuestion : List Event :=
  [.notification (.opened sampleUri "climb();"), .notification (.configured .null)]

theorem stale_answer_unobserved_supersededQuestion :
    let reached := ((start askedClient).run supersededQuestion).1
    let answer := Event.response (.number 0) (.arr [.obj [("maxDiagnostics", .int 0)]])
    let later := [Event.response (.number 0) .null, .response (.number 1) .null]
    RequestId.number 0 ∉ reached.configuration.pending.map (·.1) ∧
      (reached.step answer).2 = [] ∧ (reached.step answer).1.log later = reached.log later ∧
      ((start askedClient).run (supersededQuestion ++ answer :: later)).2 =
        ((start askedClient).run (supersededQuestion ++ later)).2 :=
  ⟨by decide, stale_answer_unobserved askedClient supersededQuestion _ (.number 0) _ (by decide)⟩

end KarelLint.Session.Server
