import KarelLint.Proofs.Session.Mirroring
import KarelLint.Proofs.Session.Requests
import Mathlib.Data.List.Induction

/-! Documents do not disturb each other. What a session shows of one document stays the same if
nothing is said about the others. If the client is asked for settings, the questions about the
document then have other numbers, so its answers are renumbered. -/

set_option autoImplicit false

namespace KarelLint.Session

/-! ## What is seen of a document -/

/-- A request for completions in a document. -/
def Event.isCompletion (uri : Uri) : Event → Bool
  | request _ (.completion other) => other == uri
  | _ => false

theorem Event.isCompletion_of_restrict? {uri : Uri} {renumber : RequestId → Option RequestId}
    {event kept : Event} (restricted : event.restrict? uri renumber = some kept) :
    kept.isCompletion uri = event.isCompletion uri := by
  cases event with
  | request id asked =>
      cases restricted
      rfl
  | notification notice =>
      obtain ⟨_, same⟩ := Option.ite_none_left_eq_some.mp restricted
      cases same
      rfl
  | response id result =>
      obtain ⟨other, _, rfl⟩ := Option.map_eq_some_iff.mp restricted
      rfl

/-- What the answer to a message shows of a document: its problems, and its completions if these
are asked for. -/
def observe (uri : Uri) (event : Event) (messages : List ServerMessage) : List ServerMessage :=
  if event.isCompletion uri then messages else shows uri messages

/-- What a session shows of a document. -/
def Server.observed (uri : Uri) (server : Server) : List Event → List ServerMessage
  | [] => []
  | event :: later =>
      observe uri event (server.step event).2 ++ (server.step event).1.observed uri later

/-! ## Numbers of questions -/

theorem questions_sublist (uri : Uri) (messages : List ServerMessage) :
    (questions uri messages).Sublist (messages.filterMap ServerMessage.request?) := by
  induction messages with
  | nil => exact .refl _
  | cons message later ih =>
      cases message with
      | askSettings id other =>
          by_cases same : other = uri
          · simpa [questions, ServerMessage.question?, ServerMessage.request?, same] using ih
          · simpa [questions, ServerMessage.question?, ServerMessage.request?, same]
              using ih.cons id
      | registerChanges id => exact ih.cons id
      | answer id reply => exact ih
      | publish other related diagnostics => exact ih

theorem lookup_zip_of_mem {keys values : List RequestId} (distinct : keys.Nodup)
    {pair : RequestId × RequestId} (member : pair ∈ keys.zip values) :
    (keys.zip values).lookup pair.1 = some pair.2 := by
  induction keys generalizing values with
  | nil => cases member
  | cons key later ih =>
      cases values with
      | nil => cases member
      | cons value rest =>
          obtain ⟨absent, distinctLater⟩ := List.nodup_cons.mp distinct
          rcases List.mem_cons.mp member with rfl | old
          · exact List.lookup_cons_self
          · have different : pair.1 ≠ key := fun same =>
              absent (same ▸ (List.of_mem_zip old).1)
            rw [List.zip_cons_cons, OrderedMap.lookup_cons_of_ne different]
            exact ih distinctLater old

theorem eq_of_mem_zip {keys values : List RequestId} (distinct : values.Nodup)
    {first second other : RequestId} (left : (first, other) ∈ keys.zip values)
    (right : (second, other) ∈ keys.zip values) : first = second := by
  induction keys generalizing values with
  | nil => cases left
  | cons key later ih =>
      cases values with
      | nil => cases left
      | cons value rest =>
          obtain ⟨absent, distinctRest⟩ := List.nodup_cons.mp distinct
          rcases List.mem_cons.mp left with new | old
          · rcases List.mem_cons.mp right with new' | old'
            · cases new
              cases new'
              rfl
            · cases new
              exact absurd (List.of_mem_zip old').2 absent
          · rcases List.mem_cons.mp right with new' | old'
            · cases new'
              exact absurd (List.of_mem_zip old).2 absent
            · exact ih distinctRest old old'

namespace Server

variable {uri : Uri} {renumber : RequestId → Option RequestId} {full short server : Server}

theorem Issues.advance (server : Server) (kept : Option Event) :
    server.Issues (server.advance kept) := by
  cases kept with
  | none => exact .silent rfl rfl rfl
  | some event => exact .step server event

theorem Consistent.advance (valid : server.Consistent) (kept : Option Event) :
    (server.advance kept).1.Consistent := by
  cases kept with
  | none => exact valid
  | some event => exact valid.step event

theorem Issues.not_issuedBefore {outcome : Server × List ServerMessage}
    (issues : server.Issues outcome) {id : RequestId} (member : id ∈ questions uri outcome.2) :
    ¬ id.IssuedBefore server.nextId := by
  obtain ⟨count, _, sent⟩ := issues.numbered
  have request := (questions_sublist uri outcome.2).mem member
  rw [sent] at request
  obtain ⟨number, within, rfl⟩ := List.mem_map.mp request
  have above := (List.mem_range'_1.mp within).1
  rintro ⟨issued, below, same⟩
  injection same with same
  omega

theorem nextId_le_run (server : Server) (events : List Event) :
    server.nextId ≤ (server.run events).1.nextId := by
  obtain ⟨count, reached, _⟩ := (Issues.run server events).numbered
  omega

/-! ## Runs side by side -/

theorem run_filterMap_cons (server : Server) (restrict : Event → Option Event) (event : Event)
    (later : List Event) :
    server.run ((event :: later).filterMap restrict) =
      (((server.advance (restrict event)).1.run (later.filterMap restrict)).1,
        (server.advance (restrict event)).2 ++
          ((server.advance (restrict event)).1.run (later.filterMap restrict)).2) := by
  cases kept : restrict event with
  | none =>
      rw [List.filterMap_cons_none kept]
      rfl
  | some event' =>
      rw [List.filterMap_cons_some kept]
      rfl

theorem observed_restrict_cons (server : Server) (event : Event) (later : List Event) :
    server.observed uri ((event :: later).filterMap (·.restrict? uri renumber)) =
      observe uri event (server.advance (event.restrict? uri renumber)).2 ++
        (server.advance (event.restrict? uri renumber)).1.observed uri
          (later.filterMap (·.restrict? uri renumber)) := by
  cases kept : event.restrict? uri renumber with
  | none =>
      rw [List.filterMap_cons_none kept]
      simp [advance, observe, shows]
  | some event' =>
      rw [List.filterMap_cons_some kept, observed, observe, observe,
        Event.isCompletion_of_restrict? kept]
      rfl

namespace Mirrors

theorem start (client : Client) :
    Mirrors uri renumber (Server.start client) (Server.start client) :=
  of_idle (.start client) (.start client) (.refl uri _) (fun _ => List.not_mem_nil)
    fun _ => List.not_mem_nil

theorem observe_step (mirrors : Mirrors uri renumber full short)
    (oneToOne : OneToOne renumber) (event : Event) :
    observe uri event (short.advance (event.restrict? uri renumber)).2 =
      observe uri event (full.step event).2 := by
  cases asked : event.isCompletion uri with
  | false => simpa [observe, asked] using (mirrors.step oneToOne event).shown
  | true =>
      cases event with
      | request id request =>
          cases request with
          | completion other =>
              obtain rfl : other = uri := beq_iff_eq.mp asked
              simp [Event.restrict?, advance, Server.step, reply, mirrors.alike.table]
          | resolve item => cases asked
          | shutdown => cases asked
          | malformed => cases asked
          | unknown method => cases asked
      | notification notice => cases asked
      | response id result => cases asked

/-- Runs side by side show the same of the document, if the questions on the two sides belong
together. -/
theorem run (mirrors : Mirrors uri renumber full short)
    (oneToOne : OneToOne renumber) {events : List Event}
    (matched : ∀ pair ∈ (questions uri (full.run events).2).zip
      (questions uri (short.run (events.filterMap (·.restrict? uri renumber))).2),
      renumber pair.1 = some pair.2) :
    let shorter := events.filterMap (·.restrict? uri renumber)
    short.observed uri shorter = full.observed uri events ∧
      (questions uri (short.run shorter).2).length =
        (questions uri (full.run events).2).length ∧
      Mirrors uri renumber (full.run events).1 (short.run shorter).1 := by
  induction events generalizing full short with
  | nil => exact ⟨rfl, rfl, mirrors⟩
  | cons event later ih =>
      have echoes := mirrors.step oneToOne event
      intro shorter
      -- The step asks as much on both sides, so its questions are paired with each other.
      rw [run_cons, run_filterMap_cons, questions_append, questions_append,
        List.zip_append echoes.asked.symm] at matched
      obtain ⟨seen, asked, final⟩ :=
        ih (echoes.mirrors fun pair member => matched pair (List.mem_append_left _ member))
          fun pair member => matched pair (List.mem_append_right _ member)
      simp only [shorter]
      rw [run_cons, run_filterMap_cons, observed_restrict_cons, observed, seen,
        mirrors.observe_step oneToOne event]
      refine ⟨rfl, ?_, final⟩
      rw [questions_append, questions_append, List.length_append, List.length_append, asked,
        echoes.asked]

end Mirrors

/-! ## Restrictions -/

/-- The questions about a document in two sessions, the first one with the first one and so on. -/
def correspondence (client : Client) (uri : Uri) (events shorter : List Event) :
    List (RequestId × RequestId) :=
  (questions uri ((start client).run events).2).zip
    (questions uri ((start client).run shorter).2)

/-- The messages of a session without those about other documents and without the answers to
questions about these. The answers that remain have the numbers of the shorter session. -/
def IsRestriction (client : Client) (uri : Uri) (events shorter : List Event) : Prop :=
  shorter = events.filterMap
    (·.restrict? uri fun id => (correspondence client uri events shorter).lookup id)

section Restrictions

variable {client : Client} {events shorter : List Event}

theorem nodup_questions (client : Client) (uri : Uri) (events : List Event) :
    (questions uri ((start client).run events).2).Nodup :=
  (Issues.run (start client) events).nodup.sublist (questions_sublist uri _)

theorem oneToOne_correspondence :
    OneToOne fun id => (correspondence client uri events shorter).lookup id := by
  intro first second other left right
  exact eq_of_mem_zip (nodup_questions client uri shorter) (OrderedMap.mem_of_lookup left)
    (OrderedMap.mem_of_lookup right)

theorem IsRestriction.mirrors (restricts : IsRestriction client uri events shorter) :
    (start client).observed uri shorter = (start client).observed uri events ∧
      (questions uri ((start client).run shorter).2).length =
        (questions uri ((start client).run events).2).length ∧
      Mirrors uri (fun id => (correspondence client uri events shorter).lookup id)
        ((start client).run events).1 ((start client).run shorter).1 := by
  let renumber := fun id => (correspondence client uri events shorter).lookup id
  have shortened : events.filterMap (·.restrict? uri renumber) = shorter := restricts.symm
  have started : Mirrors uri renumber (start client) (start client) := .start client
  have matched : ∀ pair ∈ correspondence client uri events shorter,
      renumber pair.1 = some pair.2 := fun _ member =>
    lookup_zip_of_mem (nodup_questions client uri events) member
  rw [correspondence, ← shortened] at matched
  have followed := started.run oneToOne_correspondence matched
  rwa [shortened] at followed

/-! A restriction exists. The numbers of the shorter session are found message by message. An
answer that comes before its question does nothing on either side, so it does not matter that
its new number becomes known only later. -/

theorem receive_of_unissued (valid : server.Consistent) {id : RequestId}
    (unissued : ¬ id.IssuedBefore server.nextId) (result : Json) :
    server.receive id result = (server, []) := by
  rcases server.receive_cases id result with ⟨late, _⟩ | ⟨_, taken⟩ | ⟨uri, waiting, _⟩
  · exact absurd (valid.configuration.supersededIssued id late) unissued
  · exact taken
  · exact absurd (valid.configuration.pendingIssued _ waiting) unissued

theorem advance_restrict_of_extends (uri : Uri) (valid : server.Consistent)
    {extended : RequestId → Option RequestId}
    (old : ∀ id other, renumber id = some other → extended id = some other)
    (new : ∀ id other, renumber id = none → extended id = some other →
      ¬ other.IssuedBefore server.nextId) (event : Event) :
    server.advance (event.restrict? uri extended) =
      server.advance (event.restrict? uri renumber) := by
  cases event with
  | request id asked => rfl
  | notification notice => rfl
  | response id result =>
      rw [Event.restrict?, Event.restrict?]
      cases before : renumber id with
      | some other => rw [old id other before]
      | none =>
          cases after : extended id with
          | none => rfl
          | some other => exact receive_of_unissued valid (new id other before after) result

theorem run_restrict_of_extends (valid : server.Consistent)
    {extended : RequestId → Option RequestId}
    (old : ∀ id other, renumber id = some other → extended id = some other)
    (new : ∀ id other, renumber id = none → extended id = some other →
      ¬ other.IssuedBefore
        (server.run (events.filterMap (·.restrict? uri renumber))).1.nextId) :
    server.run (events.filterMap (·.restrict? uri extended)) =
      server.run (events.filterMap (·.restrict? uri renumber)) := by
  induction events generalizing server with
  | nil => rfl
  | cons event later ih =>
      have sameStep := advance_restrict_of_extends uri valid old
        (fun id other before after issued => new id other before after
          (issued.mono (nextId_le_run server _))) event
      rw [run_filterMap_cons] at new
      rw [run_filterMap_cons, run_filterMap_cons, sameStep, ih (valid.advance _) new]

theorem questions_receive (uri : Uri) (server : Server) (id : RequestId) (result : Json) :
    questions uri (server.receive id result).2 = [] := by
  have ofPublish (server : Server) (other : Uri) (settings : Settings) :
      questions uri (server.publish other settings).2 = [] := by
    rw [publish]
    cases server.documents.get? other with
    | none => rfl
    | some text => rfl
  rcases server.receive_cases id result with ⟨_, taken⟩ | ⟨_, taken⟩ | ⟨other, _, taken⟩
  · rw [taken]
    rfl
  · rw [taken]
    rfl
  · rw [taken]
    exact ofPublish _ other _

theorem exists_restriction (client : Client) (uri : Uri) (events : List Event) :
    ∃ shorter, IsRestriction client uri events shorter := by
  -- From the end: the last message adds the numbers of its own questions to those known before.
  induction events using List.reverseRecOn with
  | nil => exact ⟨[], rfl⟩
  | append_singleton events event ih =>
      obtain ⟨shorter, restricts⟩ := ih
      obtain ⟨_, asked, _⟩ := restricts.mirrors
      let pairs := correspondence client uri events shorter
      let full := ((start client).run events).1
      let short := ((start client).run shorter).1
      let kept := event.restrict? uri fun id => pairs.lookup id
      let more := (questions uri (full.step event).2).zip (questions uri (short.advance kept).2)
      let extended := fun id => (pairs ++ more).lookup id
      have sameKept : event.restrict? uri extended = kept := by
        cases event with
        | request id asked => rfl
        | notification notice => rfl
        | response id result =>
            -- An answer leads to no question, so it is looked up among the old numbers.
            have nothing : more = [] := by
              simp only [more, step, questions_receive, List.zip_nil_left]
            simp only [kept, extended, nothing, List.append_nil]
      have sameRun : (start client).run (events.filterMap (·.restrict? uri extended)) =
          (start client).run shorter := by
        have shortened : events.filterMap (·.restrict? uri fun id => pairs.lookup id) = shorter :=
          restricts.symm
        rw [← shortened]
        apply run_restrict_of_extends (.start client)
        · intro id other found
          simp only [extended, List.lookup_append, found, Option.some_or]
        · intro id other missing found
          simp only [extended, List.lookup_append, missing, Option.none_or] at found
          rw [shortened]
          exact (Issues.advance short kept).not_issuedBefore
            (List.of_mem_zip (OrderedMap.mem_of_lookup found)).2
      refine ⟨(events ++ [event]).filterMap (·.restrict? uri extended), ?_⟩
      have grown : correspondence client uri (events ++ [event])
          ((events ++ [event]).filterMap (·.restrict? uri extended)) = pairs ++ more := by
        rw [correspondence, run_append, run_cons, List.filterMap_append, run_append, sameRun,
          run_filterMap_cons, sameKept, run_nil, List.filterMap_nil, run_nil, List.append_nil,
          List.append_nil, questions_append, questions_append, List.zip_append asked.symm]
        rfl
      rw [IsRestriction, grown]

end Restrictions

/-! Without questions no number changes, and all answers can stay. -/

theorem questions_of_unasked {client : Client} (shared : client.configuration = false)
    (uri : Uri) (events : List Event) :
    questions uri ((start client).run events).2 = [] := by
  have sublist := questions_sublist uri ((start client).run events).2
  rw [(Issues.run (start client) events).eq_nil_of_unasked shared] at sublist
  exact List.sublist_nil.mp sublist

theorem filterMap_restrict?_some (uri : Uri) (events : List Event) :
    events.filterMap (·.restrict? uri some) = events.filter fun event => !event.isForeign uri := by
  rw [← List.filterMap_eq_filter]
  congr
  funext event
  cases event with
  | request id asked => rfl
  | notification notice =>
      cases elsewhere : (Event.notification notice).isForeign uri with
      | false => simp [Event.restrict?, Option.guard, elsewhere]
      | true => simp [Event.restrict?, Option.guard, elsewhere]
  | response id result => rfl

/-- What a session shows of a document does not depend on what is said about other documents. -/
theorem documents_isolated (client : Client) (uri : Uri) (events : List Event) :
    (client.configuration = false →
      (start client).observed uri (events.filter fun event => !event.isForeign uri) =
        (start client).observed uri events) ∧
      (∃ shorter, IsRestriction client uri events shorter) ∧
      ∀ shorter, IsRestriction client uri events shorter →
        (questions uri ((start client).run shorter).2).length =
            (questions uri ((start client).run events).2).length ∧
          (start client).observed uri shorter = (start client).observed uri events := by
  refine ⟨?unasked, exists_restriction client uri events, ?asked⟩
  case unasked =>
    intro shared
    have quiet := questions_of_unasked shared uri
    have started : Mirrors uri some (start client) (start client) := .start client
    have oneToOne : OneToOne some := fun left right => Option.some.inj (left.trans right.symm)
    rw [← filterMap_restrict?_some]
    refine (started.run oneToOne ?_).1
    rw [quiet]
    exact nofun
  case asked =>
    intro shorter restricts
    obtain ⟨seen, asked, _⟩ := restricts.mirrors
    exact ⟨asked, seen⟩

-- The second document is asked about with the number 1, and with 0 once the first one is gone.
example : IsRestriction askedClient secondUri
    [.notification (.opened sampleUri "climb();"), .notification (.opened secondUri "climb();"),
      .response (.number 1) .null, .response (.number 0) .null]
    [.notification (.opened secondUri "climb();"), .response (.number 0) .null] := by
  rfl

end Server

end KarelLint.Session
