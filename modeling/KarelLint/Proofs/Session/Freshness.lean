import Mathlib.Logic.Basic
import KarelLint.Proofs.Session.Consistency
import KarelLint.Proofs.Session.History

/-! No open document is left with the problems of an old text or of old settings: either the
client still owes an answer about its settings, or its last check was of its present text with
its present settings. -/

set_option autoImplicit false

namespace KarelLint.Session

open KarelLint.Diagnosis

namespace Server

/-- The last problems shown of a document are those of a text under the known settings, and
its procedures are those of the same check. -/
structure ShowsProblems (server : Server) (log : List Occurrence) (uri : Uri) (text : String)
    (settings : Settings) : Prop where
  known : server.configuration.settings? uri = some settings
  shown : LastOf (Occurrence.Shows uri) log
    (.sent (.publish uri server.relatedInformation
      (Diagnostic.ofProblems text (check text settings.limit).problems)))
  table : server.tables.get? uri = some (check text settings.limit).table

/-- A document that is closed, or about which a question is open, or whose problems are shown
as they are. -/
def Settled (server : Server) (log : List Occurrence) (uri : Uri) : Prop :=
  ∀ text, server.documents.get? uri = some text →
    (∃ id, (id, uri) ∈ server.configuration.pending) ∨
      ∃ settings, server.ShowsProblems log uri text settings

/-- Each open question is the last one about its document and has not been answered. -/
structure Tracks (server : Server) (log : List Occurrence) : Prop where
  consistent : server.Consistent
  unanswered : ∀ question ∈ server.configuration.pending,
    LastOf (fun occurrence => occurrence.AsksAbout question.2 ∨ occurrence.Answers question.1) log
      (.sent (.askSettings question.1 question.2))

/-! ## What an operation on one document keeps -/

section Operations

variable {server : Server} {log : List Occurrence}

theorem Tracks.append (tracks : server.Tracks log) {more : List Occurrence}
    (irrelevant : ∀ question ∈ server.configuration.pending, ∀ occurrence ∈ more,
      ¬ (occurrence.AsksAbout question.2 ∨ occurrence.Answers question.1)) :
    server.Tracks (log ++ more) where
  consistent := tracks.consistent
  unanswered := fun question member =>
    (tracks.unanswered question member).append (irrelevant question member)

theorem ShowsProblems.append {uri : Uri} {text : String} {settings : Settings}
    (current : server.ShowsProblems log uri text settings) {more : List Occurrence}
    (irrelevant : ∀ occurrence ∈ more, ¬ occurrence.Shows uri) :
    server.ShowsProblems (log ++ more) uri text settings :=
  { current with shown := current.shown.append irrelevant }

theorem Settled.append {uri : Uri} (settled : server.Settled log uri) {more : List Occurrence}
    (irrelevant : ∀ occurrence ∈ more, ¬ occurrence.Shows uri) :
    server.Settled (log ++ more) uri := by
  intro text found
  rcases settled text found with waiting | ⟨settings, current⟩
  · exact .inl waiting
  · exact .inr ⟨settings, current.append irrelevant⟩

theorem Tracks.publish (tracks : server.Tracks log) (uri : Uri) (settings : Settings) :
    (server.publish uri settings).1.Tracks
      (log ++ (server.publish uri settings).2.map .sent) := by
  have valid := tracks.consistent.publish uri settings
  unfold Server.publish at valid ⊢
  split at valid
  · simpa using tracks
  · refine { tracks.append ?_ with consistent := valid }
    intro question member occurrence sent
    simp only [List.map_cons, List.map_nil, List.mem_singleton] at sent
    subst sent
    exact not_or.mpr ⟨not_false, not_false⟩

theorem settled_publish_self {uri : Uri} {settings : Settings}
    (known : server.configuration.settings? uri = some settings) :
    (server.publish uri settings).1.Settled
      (log ++ (server.publish uri settings).2.map .sent) uri := by
  intro text found
  rw [publish_documents] at found
  rw [publish_of_open found]
  refine .inr ⟨settings, known, LastOf.of_end _ _ _, ?_⟩
  exact OrderedMap.get?_insert_self _ uri _

theorem Settled.publish_of_ne {uri other : Uri} (different : other ≠ uri)
    (settled : server.Settled log other) (settings : Settings) :
    (server.publish uri settings).1.Settled
      (log ++ (server.publish uri settings).2.map .sent) other := by
  intro text found
  rw [publish_documents] at found
  rw [Server.publish]
  split
  · simpa using settled text found
  · rcases settled text found with waiting | ⟨earlier, known, shown, table⟩
    · exact .inl waiting
    · refine .inr ⟨earlier, known, shown.append ?_, ?_⟩
      · intro occurrence sent
        simp only [List.map_cons, List.map_nil, List.mem_singleton] at sent
        subst sent
        exact fun same => different same.symm
      · exact (OrderedMap.get?_insert_of_ne _ different _).trans table

theorem Tracks.refresh (tracks : server.Tracks log) {uri : Uri} (opened : server.IsOpen uri) :
    (server.refresh uri).1.Tracks (log ++ (server.refresh uri).2.map .sent) := by
  have valid := tracks.consistent.refresh opened
  rcases server.refresh_cases uri with
    ⟨settings, _, done⟩ | ⟨_, _, done⟩ | ⟨_, _, idle, done⟩
  · rw [done]
    exact tracks.publish uri settings
  · rw [done]
    simpa using tracks
  · rw [done] at valid ⊢
    refine ⟨valid, ?_⟩
    intro question member
    rcases List.mem_cons.mp member with rfl | old
    · exact LastOf.of_end _ _ _
    · have waiting := List.mem_of_mem_filter old
      apply (tracks.unanswered question waiting).append
      intro occurrence sent
      simp only [List.map_cons, List.map_nil, List.mem_singleton] at sent
      subst sent
      refine not_or.mpr ⟨?_, not_false⟩
      rintro rfl
      exact idle question.1 waiting

theorem settled_refresh_self (server : Server) (log : List Occurrence) (uri : Uri) :
    (server.refresh uri).1.Settled (log ++ (server.refresh uri).2.map .sent) uri := by
  rcases server.refresh_cases uri with
    ⟨settings, known, done⟩ | ⟨_, waiting, done⟩ | ⟨_, _, _, done⟩
  · rw [done]
    exact settled_publish_self known
  · rw [done]
    exact fun _ _ => .inl waiting
  · rw [done]
    exact fun _ _ => .inl ⟨server.nextRequest, List.mem_cons_self⟩

theorem Tracks.settled_refresh_of_ne (tracks : server.Tracks log) {uri other : Uri}
    (different : other ≠ uri) (settled : server.Settled log other) :
    (server.refresh uri).1.Settled (log ++ (server.refresh uri).2.map .sent) other := by
  rcases server.refresh_cases uri with
    ⟨settings, _, done⟩ | ⟨_, _, done⟩ | ⟨_, _, _, done⟩
  · rw [done]
    exact settled.publish_of_ne different settings
  · rw [done]
    simpa using settled
  · rw [done]
    intro text found
    rcases settled text found with ⟨id, waiting⟩ | ⟨settings, known, shown, table⟩
    · have fresh : id ≠ server.nextRequest := tracks.consistent.configuration.fresh _ waiting
      refine .inl ⟨id, List.mem_cons_of_mem _ (List.mem_filter.mpr ⟨waiting, ?_⟩)⟩
      exact bne_iff_ne.mpr fresh
    · refine .inr ⟨settings, known, shown.append ?_, table⟩
      intro occurrence sent
      simp only [List.map_cons, List.map_nil, List.mem_singleton] at sent
      subst sent
      exact not_false

theorem Tracks.settled_refresh (tracks : server.Tracks log) {uri other : Uri}
    (settled : other ≠ uri → server.Settled log other) :
    (server.refresh uri).1.Settled (log ++ (server.refresh uri).2.map .sent) other := by
  by_cases same : other = uri
  · subst same
    exact settled_refresh_self server log other
  · exact tracks.settled_refresh_of_ne same (settled same)

/-- After the check of some documents these are settled, and so is what was settled before. -/
theorem Tracks.refreshAll (tracks : server.Tracks log) {order : List Uri}
    (opened : ∀ uri ∈ order, server.IsOpen uri) :
    (server.refreshAll order).1.Tracks (log ++ (server.refreshAll order).2.map .sent) ∧
      ∀ uri, uri ∈ order ∨ server.Settled log uri →
        (server.refreshAll order).1.Settled (log ++ (server.refreshAll order).2.map .sent) uri := by
  induction order generalizing server log with
  | nil => simpa using tracks
  | cons first later ih =>
      have stillOpen : ∀ uri ∈ later, (server.refresh first).1.IsOpen uri := by
        intro uri member
        unfold IsOpen
        rw [refresh_documents]
        exact opened uri (List.mem_cons_of_mem _ member)
      obtain ⟨final, settled⟩ := ih (tracks.refresh (opened first List.mem_cons_self)) stillOpen
      rw [refreshAll_cons, List.map_append, ← List.append_assoc]
      refine ⟨final, ?_⟩
      intro uri due
      apply settled uri
      rcases due with listed | before
      · rcases List.mem_cons.mp listed with rfl | rest
        · exact .inr (settled_refresh_self server log uri)
        · exact .inl rest
      · exact .inr (tracks.settled_refresh fun _ => before)

end Operations

/-! ## Whole sessions -/

/-- A server that tracks its questions and has settled all documents. -/
structure UpToDate (server : Server) (log : List Occurrence) : Prop where
  tracks : server.Tracks log
  settled : ∀ uri, server.Settled log uri

namespace UpToDate

variable {server : Server} {log : List Occurrence}

theorem start (client : Client) : (Server.start client).UpToDate [] where
  tracks := ⟨.start client, by simp [Server.start]⟩
  settled := by
    intro uri text found
    cases found

/-- A message that is no answer to an open question changes nothing by itself. -/
theorem received (valid : server.UpToDate log) (event : Event)
    (stale : ∀ question ∈ server.configuration.pending,
      ¬ (Occurrence.received event).Answers question.1) :
    server.UpToDate (log ++ [.received event]) where
  tracks := valid.tracks.append fun question member occurrence sent => by
    rw [List.mem_singleton.mp sent]
    exact not_or.mpr ⟨not_false, stale question member⟩
  settled := fun uri => (valid.settled uri).append fun occurrence sent => by
    rw [List.mem_singleton.mp sent]
    exact not_false

theorem edit (valid : server.UpToDate log) (uri : Uri) (text : String) :
    (server.edit uri text).1.UpToDate (log ++ (server.edit uri text).2.map .sent) := by
  have tracks : { server with documents := server.documents.insert uri text }.Tracks log :=
    ⟨valid.tracks.consistent.insert uri text, valid.tracks.unanswered⟩
  constructor
  · exact tracks.refresh ⟨text, OrderedMap.get?_insert_self _ uri text⟩
  · intro other
    apply tracks.settled_refresh
    intro different content found
    rw [OrderedMap.get?_insert_of_ne _ different] at found
    rcases valid.settled other content found with waiting | ⟨settings, known, shown, table⟩
    · exact .inl waiting
    · exact .inr ⟨settings, known, shown, table⟩

theorem close (valid : server.UpToDate log) (uri : Uri) : (server.close uri).UpToDate log := by
  constructor
  · refine ⟨valid.tracks.consistent.close uri, ?_⟩
    intro question member
    exact valid.tracks.unanswered question (List.mem_of_mem_filter member)
  · intro other text found
    have different : other ≠ uri := by
      rintro rfl
      simp [Server.close, OrderedMap.get?_erase] at found
    rw [Server.close, OrderedMap.get?_erase_of_ne _ different] at found
    rcases valid.settled other text found with ⟨id, waiting⟩ | ⟨settings, known, shown, table⟩
    · exact .inl ⟨id, List.mem_filter.mpr ⟨waiting, bne_iff_ne.mpr different⟩⟩
    · refine .inr ⟨settings, ?_, shown, ?_⟩
      · rw [← known]
        simp only [Server.close, Configuration.forget, Configuration.settings?,
          OrderedMap.get?_erase_of_ne _ different]
      · exact (OrderedMap.get?_erase_of_ne _ different).trans table

theorem reconfigure (valid : server.UpToDate log) (payload : Json) :
    (server.reconfigure payload server.documents.keys).1.UpToDate
      (log ++ (server.reconfigure payload server.documents.keys).2.map .sent) := by
  have tracks :
      { server with configuration := server.configuration.change payload }.Tracks log := by
    refine ⟨valid.tracks.consistent.change payload, ?_⟩
    intro question member
    unfold Configuration.change at member
    split at member
    · cases member
    · exact valid.tracks.unanswered question member
  obtain ⟨final, settled⟩ := tracks.refreshAll fun _ member => isOpen_of_mem_keys member
  refine ⟨final, ?_⟩
  intro uri text found
  rw [Server.reconfigure, refreshAll_documents] at found
  exact settled uri (.inl (mem_keys_of_get? found)) text (by rw [refreshAll_documents]; exact found)

theorem settings?_accept (valid : server.Consistent) {id : RequestId} {uri : Uri}
    (waiting : (id, uri) ∈ server.configuration.pending) (settings : Settings) :
    (server.accept id uri settings).configuration.settings? uri = some settings := by
  have asks : server.configuration.perDocument = true := valid.configuration.asks_of_mem waiting
  rw [Configuration.settings?, Server.accept, if_pos asks]
  exact OrderedMap.get?_insert_self _ uri settings

/-- The answer to a question removes the question, so that the others stay unanswered, and
nothing changes for the other documents. -/
theorem accept (valid : server.UpToDate log) {id : RequestId} {uri : Uri}
    (waiting : (id, uri) ∈ server.configuration.pending) (result : Json) (settings : Settings) :
    (server.accept id uri settings).Tracks (log ++ [.received (.response id result)]) ∧
      ∀ other, other ≠ uri → (server.accept id uri settings).Settled
        (log ++ [.received (.response id result)]) other := by
  have consistent := valid.tracks.consistent
  constructor
  · refine ⟨consistent.accept waiting settings, ?_⟩
    intro question member
    obtain ⟨old, different⟩ := List.mem_filter.mp member
    apply (valid.tracks.unanswered question old).append
    intro occurrence sent
    rw [List.mem_singleton.mp sent]
    refine not_or.mpr ⟨not_false, ?_⟩
    rintro rfl
    simp at different
  · intro other different text found
    rcases valid.settled other text found with ⟨id', waiting'⟩ | ⟨earlier, known, shown, table⟩
    · refine .inl ⟨id', List.mem_filter.mpr ⟨waiting', bne_iff_ne.mpr ?_⟩⟩
      rintro rfl
      exact different (consistent.configuration.eq_of_id waiting' waiting)
    · refine .inr ⟨earlier, ?_, shown.append ?_, table⟩
      · rw [← known]
        simp only [Server.accept, Configuration.settings?,
          OrderedMap.get?_insert_of_ne _ different]
      · intro occurrence sent
        rw [List.mem_singleton.mp sent]
        exact not_false

theorem receive (valid : server.UpToDate log) (id : RequestId) (result : Json) :
    (server.receive id result).1.UpToDate
      (log ++ .received (.response id result) :: (server.receive id result).2.map .sent) := by
  have consistent := valid.tracks.consistent
  have received := consistent.receive id result
  rcases server.receive_cases id result with
    ⟨late, taken⟩ | ⟨unknown, taken⟩ | ⟨uri, waiting, taken⟩
  · rw [taken] at received ⊢
    have noted := valid.received (.response id result) (by
      rintro question member rfl
      exact consistent.configuration.current question member late)
    refine ⟨⟨received, noted.tracks.unanswered⟩, ?_⟩
    intro other text found
    rcases noted.settled other text found with waiting | ⟨settings, known, shown, table⟩
    · exact .inl waiting
    · exact .inr ⟨settings, known, shown, table⟩
  · rw [taken]
    apply valid.received
    rintro ⟨_, other⟩ member rfl
    exact unknown other member
  · rw [taken, List.append_cons]
    have accepted := valid.accept waiting result (Configuration.answered result)
    refine ⟨accepted.1.publish uri _, ?_⟩
    intro other
    by_cases same : other = uri
    · subst same
      apply settled_publish_self
      exact settings?_accept consistent waiting _
    · exact (accepted.2 other same).publish_of_ne same _

theorem register (valid : server.UpToDate log) :
    server.register.1.UpToDate (log ++ server.register.2.map .sent) := by
  have consistent := valid.tracks.consistent.register
  by_cases asks : server.configuration.perDocument = true
  · rw [Server.register, if_pos asks] at consistent ⊢
    refine ⟨⟨consistent, ?_⟩, ?_⟩
    · intro question member
      apply (valid.tracks.unanswered question member).append
      intro occurrence sent
      rw [List.mem_singleton.mp sent]
      exact not_or.mpr ⟨not_false, not_false⟩
    · intro uri text found
      rcases valid.settled uri text found with waiting | ⟨settings, known, shown, table⟩
      · exact .inl waiting
      · refine .inr ⟨settings, known, shown.append ?_, table⟩
        intro occurrence sent
        rw [List.mem_singleton.mp sent]
        exact not_false
  · rw [Server.register, if_neg asks]
    simpa using valid

theorem notice (valid : server.UpToDate log) (notification : Notification) :
    (server.notice notification).1.UpToDate
      (log ++ (server.notice notification).2.map .sent) := by
  cases notification with
  | initialized => exact valid.register
  | opened uri text => exact valid.edit uri text
  | changed uri texts =>
      rw [Server.notice]
      split
      · exact valid.edit uri _
      · simpa using valid
  | closed uri => simpa [Server.notice] using valid.close uri
  | configured payload => exact valid.reconfigure payload
  | exit => simpa [Server.notice] using valid
  | ignored => simpa [Server.notice] using valid

theorem step (valid : server.UpToDate log) (event : Event) :
    (server.step event).1.UpToDate (log ++ server.exchange event) := by
  rw [exchange]
  cases event with
  | request id request =>
      rw [List.append_cons]
      have noted := valid.received (.request id request) fun _ _ => not_false
      refine ⟨noted.tracks.append ?_, fun uri => (noted.settled uri).append ?_⟩
      · intro question member occurrence sent
        rw [List.mem_singleton.mp sent]
        exact not_or.mpr ⟨not_false, not_false⟩
      · intro occurrence sent
        rw [List.mem_singleton.mp sent]
        exact not_false
  | notification notification =>
      rw [List.append_cons]
      exact (valid.received (.notification notification) fun _ _ => not_false).notice notification
  | response id result => exact valid.receive id result

theorem run (valid : server.UpToDate log) (events : List Event) :
    (server.run events).1.UpToDate (log ++ server.log events) := by
  induction events generalizing server log with
  | nil => simpa [Server.log] using valid
  | cons event later ih =>
      rw [run_cons, Server.log, ← List.append_assoc]
      exact ih (valid.step event)

end UpToDate

/-- The client owes an answer about a document: one question about it is open, which is the
last one that was sent about it and has not been answered. -/
structure Awaits (server : Server) (log : List Occurrence) (uri : Uri) (id : RequestId) :
    Prop where
  only : (server.configuration.pending.filter fun question => question.2 == uri) = [(id, uri)]
  unanswered :
    LastOf (fun occurrence => occurrence.AsksAbout uri ∨ occurrence.Answers id) log
      (.sent (.askSettings id uri))

theorem Tracks.awaits {server : Server} {log : List Occurrence} (tracks : server.Tracks log)
    {id : RequestId} {uri : Uri} (waiting : (id, uri) ∈ server.configuration.pending) :
    server.Awaits log uri id where
  only := tracks.consistent.configuration.filter_uri waiting
  unanswered := tracks.unanswered _ waiting

theorem Awaits.unknown {server : Server} {log : List Occurrence} {id : RequestId} {uri : Uri}
    (valid : server.Consistent) (awaits : server.Awaits log uri id) :
    server.configuration.settings? uri = none := by
  have waiting : (id, uri) ∈ server.configuration.pending := by
    apply List.mem_of_mem_filter
    rw [awaits.only]
    exact List.mem_singleton_self _
  rw [Configuration.settings?, if_pos (valid.configuration.asks_of_mem waiting)]
  exact valid.configuration.unanswered _ waiting

/-- No update is lost. After any messages, an open document awaits an answer of the client
about its settings, or the last problems shown of it are those of its present text under its
present settings, and not both. Every message of an editor is one of these events, whether its
parameters can be read or not. -/
theorem open_document_current (client : Client) (events : List Event) (uri : Uri) (text : String)
    (opened : ((start client).run events).1.documents.get? uri = some text) :
    let server := ((start client).run events).1
    let log := (start client).log events
    server.Serves client ∧
      Xor (∃ id, server.Awaits log uri id)
        (∃ settings, server.ShowsProblems log uri text settings) := by
  intro server log
  have valid : server.UpToDate log := (UpToDate.start client).run events
  refine ⟨(Serves.start client).run events, ?_⟩
  have exclusive : ¬ ((∃ id, server.Awaits log uri id) ∧
      ∃ settings, server.ShowsProblems log uri text settings) := by
    rintro ⟨⟨id, awaits⟩, settings, current⟩
    have known := current.known
    rw [awaits.unknown valid.tracks.consistent] at known
    cases known
  rcases valid.settled uri text opened with ⟨id, waiting⟩ | current
  · have awaits : ∃ id, server.Awaits log uri id := ⟨id, valid.tracks.awaits waiting⟩
    exact .inl ⟨awaits, fun current => exclusive ⟨awaits, current⟩⟩
  · exact .inr ⟨current, fun awaits => exclusive ⟨awaits, current⟩⟩

/-- The configuration changes while a question is open, the answer to that question comes late,
and the text changes. -/
def lateAnswer : List Event :=
  [.notification (.opened sampleUri "climb();"), .notification (.configured .null),
    .response (.number 0) (.arr []), .notification (.changed sampleUri ["move();"])]

theorem open_document_current_lateAnswer :
    let server := ((start askedClient).run lateAnswer).1
    let log := (start askedClient).log lateAnswer
    server.documents.get? sampleUri = some "move();" ∧ server.Serves askedClient ∧
      Xor (∃ id, server.Awaits log sampleUri id)
        (∃ settings, server.ShowsProblems log sampleUri "move();" settings) :=
  ⟨rfl, open_document_current askedClient lateAnswer sampleUri "move();" rfl⟩

end Server

end KarelLint.Session
