import KarelLint.Proofs.Session.Frames
import KarelLint.Proofs.Session.StaleAnswers

/-! Two servers followed side by side that keep the same about one document. The second one is
told nothing about the other documents, so its questions have other numbers. Each step shows the
same problems of the document on both sides and asks the same questions about it, and it keeps
the two servers in step if these questions get numbers that belong together. -/

set_option autoImplicit false

namespace KarelLint.Session

/-! ## Messages about one document -/

namespace Event

/-- Another document is opened, changed or closed. -/
def isForeign (uri : Uri) : Event → Bool
  | notification (.opened other _) => other != uri
  | notification (.changed other _) => other != uri
  | notification (.closed other) => other != uri
  | _ => false

/-- What a message becomes if nothing is to be said about other documents. An answer gets the
number of the question that it then answers, if there is one. -/
def restrict? (uri : Uri) (renumber : RequestId → Option RequestId) : Event → Option Event
  | request id asked => some (request id asked)
  | notification notice =>
      if (notification notice).isForeign uri then none else some (notification notice)
  | response id result => (renumber id).map (response · result)

end Event

namespace ServerMessage

/-- The identity of a question about a document. -/
def question? (uri : Uri) : ServerMessage → Option RequestId
  | askSettings id other => if other = uri then some id else none
  | _ => none

end ServerMessage

/-- The identities of the questions about a document. -/
def questions (uri : Uri) (messages : List ServerMessage) : List RequestId :=
  messages.filterMap (ServerMessage.question? uri)

/-- The messages that show the problems of a document. -/
def shows (uri : Uri) (messages : List ServerMessage) : List ServerMessage :=
  messages.filter fun message => message.shown? == some uri

section Messages

variable {uri : Uri} {messages more : List ServerMessage}

theorem questions_append (uri : Uri) (messages more : List ServerMessage) :
    questions uri (messages ++ more) = questions uri messages ++ questions uri more :=
  List.filterMap_append

theorem shows_append (uri : Uri) (messages more : List ServerMessage) :
    shows uri (messages ++ more) = shows uri messages ++ shows uri more :=
  List.filter_append ..

theorem questions_of_silent (silent : ∀ message ∈ messages, ¬ message.Mentions uri) :
    questions uri messages = [] := by
  apply List.filterMap_eq_nil_iff.mpr
  intro message member
  have unmentioned := silent message member
  cases message with
  | askSettings id other => exact if_neg unmentioned
  | publish other related diagnostics => rfl
  | answer id reply => rfl
  | registerChanges id => rfl

theorem shows_of_silent (silent : ∀ message ∈ messages, ¬ message.Mentions uri) :
    shows uri messages = [] := by
  apply List.filter_eq_nil_iff.mpr
  intro message member shown
  exact silent message member (ServerMessage.mentions_of_shown? (beq_iff_eq.mp shown))

end Messages

/-- A change of the configuration leaves no question open. -/
theorem Configuration.Consistent.pending_change {configuration : Configuration} {bound : Nat}
    (valid : configuration.Consistent bound) (payload : Json) :
    (configuration.change payload).pending = [] := by
  rw [Configuration.change]
  cases asks : configuration.perDocument with
  | false => exact (valid.unasked asks).1
  | true => rfl

namespace Server

theorem refreshAll_append (server : Server) (earlier later : List Uri) :
    server.refreshAll (earlier ++ later) =
      (((server.refreshAll earlier).1.refreshAll later).1,
        (server.refreshAll earlier).2 ++ ((server.refreshAll earlier).1.refreshAll later).2) := by
  induction earlier generalizing server with
  | nil => rfl
  | cons uri earlier ih =>
      rw [List.cons_append, refreshAll_cons, refreshAll_cons, ih, List.append_assoc]

/-- Once the question about a document is answered, none about it is open. -/
theorem Consistent.idle_accept {server : Server} (valid : server.Consistent) {id : RequestId}
    {uri : Uri} (waiting : (id, uri) ∈ server.configuration.pending) (settings : Settings)
    (other : RequestId) :
    (other, uri) ∉ (server.accept id uri settings).configuration.pending := by
  intro still
  have unknown := (valid.accept waiting settings).configuration.unanswered _ still
  cases unknown.symm.trans (OrderedMap.get?_insert_self _ uri settings)

/-! ## Servers in step -/

/-- A partial renumbering that gives no number twice. -/
def OneToOne (renumber : RequestId → Option RequestId) : Prop :=
  ∀ {first second other : RequestId}, renumber first = some other →
    renumber second = some other → first = second

/-- Two servers that keep the same about a document, where a partial renumbering takes the open
question about it on the one side to that on the other side. -/
structure Mirrors (uri : Uri) (renumber : RequestId → Option RequestId) (full short : Server) :
    Prop where
  fullValid : full.Consistent
  shortValid : short.Consistent
  alike : Alike uri full short
  forward : ∀ id, (id, uri) ∈ full.configuration.pending →
    ∃ other, renumber id = some other ∧ (other, uri) ∈ short.configuration.pending
  backward : ∀ other, (other, uri) ∈ short.configuration.pending →
    ∃ id, renumber id = some other ∧ (id, uri) ∈ full.configuration.pending

/-- Two outcomes that show the same of a document and ask as much about it. The servers that
they lead to are in step if the questions belong together. -/
structure Echoes (uri : Uri) (renumber : RequestId → Option RequestId)
    (outcome echo : Server × List ServerMessage) : Prop where
  shown : shows uri echo.2 = shows uri outcome.2
  asked : (questions uri echo.2).length = (questions uri outcome.2).length
  mirrors : (∀ pair ∈ (questions uri outcome.2).zip (questions uri echo.2),
    renumber pair.1 = some pair.2) → Mirrors uri renumber outcome.1 echo.1

variable {uri : Uri} {renumber : RequestId → Option RequestId} {full short : Server}

namespace Mirrors

theorem of_frames (mirrors : Mirrors uri renumber full short) {nextFull nextShort : Server}
    (fullFrame : Frame uri full nextFull) (shortFrame : Frame uri short nextShort)
    (fullValid : nextFull.Consistent) (shortValid : nextShort.Consistent) :
    Mirrors uri renumber nextFull nextShort where
  fullValid := fullValid
  shortValid := shortValid
  alike := fullFrame.toAlike.symm.trans (mirrors.alike.trans shortFrame.toAlike)
  forward := by
    intro id waiting
    obtain ⟨other, same, found⟩ := mirrors.forward id ((fullFrame.pending id).mp waiting)
    exact ⟨other, same, (shortFrame.pending other).mpr found⟩
  backward := by
    intro other waiting
    obtain ⟨id, same, found⟩ := mirrors.backward other ((shortFrame.pending other).mp waiting)
    exact ⟨id, same, (fullFrame.pending id).mpr found⟩

theorem of_idle (fullValid : full.Consistent) (shortValid : short.Consistent)
    (alike : Alike uri full short) (idle : ∀ id, (id, uri) ∉ full.configuration.pending)
    (idle' : ∀ other, (other, uri) ∉ short.configuration.pending) :
    Mirrors uri renumber full short where
  fullValid := fullValid
  shortValid := shortValid
  alike := alike
  forward := fun id waiting => absurd waiting (idle id)
  backward := fun other waiting => absurd waiting (idle' other)

/-- What does not concern the document on either side keeps the servers in step. -/
theorem of_spares (mirrors : Mirrors uri renumber full short)
    {outcome echo : Server × List ServerMessage} (fullSpares : Spares uri full outcome)
    (shortSpares : Spares uri short echo) (fullValid : outcome.1.Consistent)
    (shortValid : echo.1.Consistent) : Echoes uri renumber outcome echo where
  shown := by rw [shows_of_silent fullSpares.silent, shows_of_silent shortSpares.silent]
  asked := by rw [questions_of_silent fullSpares.silent, questions_of_silent shortSpares.silent]
  mirrors := fun _ => mirrors.of_frames fullSpares.frame shortSpares.frame fullValid shortValid

theorem unchanged (mirrors : Mirrors uri renumber full short) :
    Echoes uri renumber (full, []) (short, []) :=
  mirrors.of_spares (.refl uri full) (.refl uri short) mirrors.fullValid mirrors.shortValid

end Mirrors

namespace Echoes

variable {middle last middle' last' : Server} {first second first' second' : List ServerMessage}

theorem after_silent (echoes : Echoes uri renumber (last, second) (last', second'))
    (silent : ∀ message ∈ first, ¬ message.Mentions uri)
    (silent' : ∀ message ∈ first', ¬ message.Mentions uri) :
    Echoes uri renumber (last, first ++ second) (last', first' ++ second') := by
  obtain ⟨shown, asked, mirrors⟩ := echoes
  constructor
  · simpa [shows_append, shows_of_silent silent, shows_of_silent silent'] using shown
  · simpa [questions_append, questions_of_silent silent, questions_of_silent silent'] using asked
  · simpa [questions_append, questions_of_silent silent, questions_of_silent silent'] using mirrors

theorem before_spares (echoes : Echoes uri renumber (middle, first) (middle', first'))
    (spares : Spares uri middle (last, second)) (spares' : Spares uri middle' (last', second'))
    (valid : last.Consistent) (valid' : last'.Consistent) :
    Echoes uri renumber (last, first ++ second) (last', first' ++ second') := by
  have quiet := questions_of_silent spares.silent
  have quiet' := questions_of_silent spares'.silent
  have hidden := shows_of_silent spares.silent
  have hidden' := shows_of_silent spares'.silent
  obtain ⟨shown, asked, mirrors⟩ := echoes
  simp only at quiet quiet' hidden hidden' shown asked mirrors
  constructor
  · simp only [shows_append, hidden, hidden', List.append_nil, shown]
  · simp only [questions_append, quiet, quiet', List.append_nil, asked]
  · intro matched
    simp only [questions_append, quiet, quiet', List.append_nil] at matched
    exact (mirrors matched).of_frames spares.frame spares'.frame valid valid'

end Echoes

/-! ## Operations on the document -/

namespace Mirrors

theorem settings?_eq (mirrors : Mirrors uri renumber full short) :
    short.configuration.settings? uri = full.configuration.settings? uri := by
  rw [Configuration.settings?, Configuration.settings?, mirrors.alike.client,
    mirrors.alike.shared, mirrors.alike.cached]

theorem isOpen (mirrors : Mirrors uri renumber full short) (opened : full.IsOpen uri) :
    short.IsOpen uri := by
  obtain ⟨text, found⟩ := opened
  exact ⟨text, mirrors.alike.text.trans found⟩

theorem publish (mirrors : Mirrors uri renumber full short) (settings : Settings) :
    Echoes uri renumber (full.publish uri settings) (short.publish uri settings) := by
  have fullValid := mirrors.fullValid.publish uri settings
  have shortValid := mirrors.shortValid.publish uri settings
  cases found : full.documents.get? uri with
  | none =>
      have missing := mirrors.alike.text.trans found
      rw [Server.publish, Server.publish, found, missing]
      exact mirrors.unchanged
  | some text =>
      have opened := mirrors.alike.text.trans found
      rw [publish_of_open found] at fullValid ⊢
      rw [publish_of_open opened] at shortValid ⊢
      constructor
      · rw [mirrors.alike.related]
      · rfl
      · intro _
        refine ⟨fullValid, shortValid, ?_, mirrors.forward, mirrors.backward⟩
        refine { mirrors.alike with table := ?_ }
        exact (OrderedMap.get?_insert_self ..).trans (OrderedMap.get?_insert_self ..).symm

theorem refresh (mirrors : Mirrors uri renumber full short) (opened : full.IsOpen uri) :
    Echoes uri renumber (full.refresh uri) (short.refresh uri) := by
  have fullValid := mirrors.fullValid.refresh opened
  have shortValid := mirrors.shortValid.refresh (mirrors.isOpen opened)
  have same := mirrors.settings?_eq
  rcases full.refresh_cases uri with
    ⟨settings, known, done⟩ | ⟨unknown, ⟨id, waiting⟩, done⟩ | ⟨asks, uncached, idle, done⟩
  · rw [done, refresh_of_known (same.trans known)]
    exact mirrors.publish settings
  · obtain ⟨other, _, found⟩ := mirrors.forward id waiting
    rw [done, refresh_of_awaited (same.trans unknown) found]
    exact mirrors.unchanged
  · have unknown := Configuration.settings?_of_uncached asks uncached
    have idle' : ∀ other, (other, uri) ∉ short.configuration.pending := by
      intro other waiting
      obtain ⟨id, _, found⟩ := mirrors.backward other waiting
      exact idle id found
    have done' := refresh_of_missing (same.trans unknown) idle'
    rw [done] at fullValid ⊢
    rw [done'] at shortValid ⊢
    constructor
    · rfl
    · simp [questions, ServerMessage.question?]
    · intro matched
      have pair : renumber full.nextRequest = some short.nextRequest := by
        simpa [questions, ServerMessage.question?] using matched
      refine ⟨fullValid, shortValid, { mirrors.alike with }, ?_, ?_⟩
      · intro id waiting
        rcases List.mem_cons.mp waiting with new | old
        · cases new
          exact ⟨short.nextRequest, pair, List.mem_cons_self⟩
        · exact absurd (List.mem_of_mem_filter old) (idle id)
      · intro other waiting
        rcases List.mem_cons.mp waiting with new | old
        · cases new
          exact ⟨full.nextRequest, pair, List.mem_cons_self⟩
        · exact absurd (List.mem_of_mem_filter old) (idle' other)

/-- A walk through open documents concerns a document only where it comes to it. -/
theorem spares_around {server : Server} (valid : server.Consistent) {earlier later : List Uri}
    (distinct : (earlier ++ uri :: later).Nodup)
    (opened : ∀ other ∈ earlier ++ uri :: later, server.IsOpen other) :
    let reached := (server.refreshAll earlier).1
    let left := (reached.refresh uri).1
    Spares uri server (server.refreshAll earlier) ∧ reached.Consistent ∧ reached.IsOpen uri ∧
      Spares uri left (left.refreshAll later) ∧ (left.refreshAll later).1.Consistent := by
  intro reached left
  obtain ⟨_, distinctLater, apart⟩ := List.nodup_append.mp distinct
  have openedEarlier : ∀ other ∈ earlier, server.IsOpen other := fun other member =>
    opened other (List.mem_append_left _ member)
  have absentEarlier : uri ∉ earlier := fun member =>
    apart uri member uri List.mem_cons_self rfl
  have valid' : reached.Consistent := valid.refreshAll openedEarlier
  have openedReached : ∀ other ∈ uri :: later, reached.IsOpen other := fun other member =>
    (opened other (List.mem_append_right _ member)).refreshAll earlier
  have openedLeft : ∀ other ∈ later, left.IsOpen other := fun other member =>
    (openedReached other (List.mem_cons_of_mem _ member)).refresh uri
  have validLeft : left.Consistent := valid'.refresh (openedReached uri List.mem_cons_self)
  exact ⟨.refreshAll valid openedEarlier absentEarlier, valid',
    openedReached uri List.mem_cons_self,
    .refreshAll validLeft openedLeft (List.nodup_cons.mp distinctLater).1,
    validLeft.refreshAll openedLeft⟩

/-- The two servers may go through other documents before and after the one that they share. -/
theorem refreshAll (mirrors : Mirrors uri renumber full short) {order order' : List Uri}
    (distinct : order.Nodup) (distinct' : order'.Nodup)
    (opened : ∀ other ∈ order, full.IsOpen other)
    (opened' : ∀ other ∈ order', short.IsOpen other) (same : uri ∈ order ↔ uri ∈ order') :
    Echoes uri renumber (full.refreshAll order) (short.refreshAll order') := by
  by_cases member : uri ∈ order
  · obtain ⟨earlier, later, rfl⟩ := List.append_of_mem member
    obtain ⟨earlier', later', rfl⟩ := List.append_of_mem (same.mp member)
    obtain ⟨before, valid, openedHere, after, final⟩ :=
      spares_around mirrors.fullValid distinct opened
    obtain ⟨before', valid', _, after', final'⟩ :=
      spares_around mirrors.shortValid distinct' opened'
    have reached := mirrors.of_frames before.frame before'.frame valid valid'
    rw [refreshAll_append, refreshAll_append, refreshAll_cons, refreshAll_cons]
    exact ((reached.refresh openedHere).before_spares after after' final final').after_silent
      before.silent before'.silent
  · exact mirrors.of_spares (.refreshAll mirrors.fullValid opened member)
      (.refreshAll mirrors.shortValid opened' fun found => member (same.mpr found))
      (mirrors.fullValid.refreshAll opened) (mirrors.shortValid.refreshAll opened')

theorem edit (mirrors : Mirrors uri renumber full short) (text : String) :
    Echoes uri renumber (full.edit uri text) (short.edit uri text) := by
  have opened : Mirrors uri renumber
      { full with documents := full.documents.insert uri text }
      { short with documents := short.documents.insert uri text } := by
    refine ⟨mirrors.fullValid.insert uri text, mirrors.shortValid.insert uri text, ?_,
      mirrors.forward, mirrors.backward⟩
    refine { mirrors.alike with text := ?_ }
    exact (OrderedMap.get?_insert_self ..).trans (OrderedMap.get?_insert_self ..).symm
  exact opened.refresh ⟨text, OrderedMap.get?_insert_self ..⟩

theorem close (mirrors : Mirrors uri renumber full short) :
    Echoes uri renumber (full.close uri, []) (short.close uri, []) := by
  constructor
  · rfl
  · rfl
  · intro _
    have idle (server : Server) (id : RequestId) :
        (id, uri) ∉ (server.close uri).configuration.pending := by
      simp [Server.close, Configuration.forget]
    refine of_idle (mirrors.fullValid.close uri) (mirrors.shortValid.close uri) ?_
      (idle full) (idle short)
    refine { mirrors.alike with text := ?_, table := ?_, cached := ?_ }
    · exact (OrderedMap.get?_erase_self ..).trans (OrderedMap.get?_erase_self ..).symm
    · exact (OrderedMap.get?_erase_self ..).trans (OrderedMap.get?_erase_self ..).symm
    · exact (OrderedMap.get?_erase_self ..).trans (OrderedMap.get?_erase_self ..).symm

theorem change (mirrors : Mirrors uri renumber full short) (payload : Json) :
    Mirrors uri renumber { full with configuration := full.configuration.change payload }
      { short with configuration := short.configuration.change payload } := by
  apply of_idle (mirrors.fullValid.change payload) (mirrors.shortValid.change payload)
  · have client := mirrors.alike.client
    cases asks : full.configuration.perDocument with
    | false =>
        rw [asks] at client
        simp only [Configuration.change, asks, client]
        exact { mirrors.alike with client := rfl, shared := rfl }
    | true =>
        rw [asks] at client
        simp only [Configuration.change, asks, client]
        exact { mirrors.alike with client := rfl, cached := rfl }
  · intro id
    simp only [mirrors.fullValid.configuration.pending_change]
    exact List.not_mem_nil
  · intro other
    simp only [mirrors.shortValid.configuration.pending_change]
    exact List.not_mem_nil

theorem reconfigure (mirrors : Mirrors uri renumber full short) (payload : Json) :
    Echoes uri renumber (full.reconfigure payload full.documents.keys)
      (short.reconfigure payload short.documents.keys) := by
  apply (mirrors.change payload).refreshAll
  · exact full.documents.nodup_keys
  · exact short.documents.nodup_keys
  · exact fun _ member => isOpen_of_mem_keys member
  · exact fun _ member => isOpen_of_mem_keys member
  · constructor
    · intro member
      obtain ⟨text, found⟩ := mirrors.isOpen (isOpen_of_mem_keys member)
      exact mem_keys_of_get? found
    · intro member
      obtain ⟨text, found⟩ := isOpen_of_mem_keys member
      exact mem_keys_of_get? (mirrors.alike.text.symm.trans found)

/-- An answer to the open question about the document is taken on both sides. -/
theorem receive (mirrors : Mirrors uri renumber full short) {id other : RequestId}
    (waiting : (id, uri) ∈ full.configuration.pending)
    (waiting' : (other, uri) ∈ short.configuration.pending) (result : Json) :
    Echoes uri renumber (full.receive id result) (short.receive other result) := by
  rw [receive_of_mem mirrors.fullValid waiting, receive_of_mem mirrors.shortValid waiting']
  apply Mirrors.publish
  refine of_idle (mirrors.fullValid.accept waiting _) (mirrors.shortValid.accept waiting' _) ?_
    (mirrors.fullValid.idle_accept waiting _) (mirrors.shortValid.idle_accept waiting' _)
  refine { mirrors.alike with cached := ?_ }
  exact (OrderedMap.get?_insert_self ..).trans (OrderedMap.get?_insert_self ..).symm

end Mirrors

/-! ## Steps -/

/-- Take a message if there is one. -/
def advance (server : Server) : Option Event → Server × List ServerMessage
  | none => (server, [])
  | some event => server.step event

theorem Mirrors.notice (mirrors : Mirrors uri renumber full short) (notification : Notification) :
    Echoes uri renumber (full.notice notification)
      (short.advance ((Event.notification notification).restrict? uri renumber)) := by
  have fullValid := mirrors.fullValid.notice notification
  -- Another document is edited or closed on one side only.
  have foreign (elsewhere : (Event.notification notification).isForeign uri = true)
      (spares : Spares uri full (full.notice notification)) :
      Echoes uri renumber (full.notice notification)
        (short.advance ((Event.notification notification).restrict? uri renumber)) := by
    rw [Event.restrict?, if_pos elsewhere]
    exact mirrors.of_spares spares (.refl uri short) fullValid mirrors.shortValid
  have own (here : (Event.notification notification).isForeign uri = false)
      (echoes : Echoes uri renumber (full.notice notification) (short.notice notification)) :
      Echoes uri renumber (full.notice notification)
        (short.advance ((Event.notification notification).restrict? uri renumber)) := by
    rw [Event.restrict?, if_neg (ne_true_of_eq_false here)]
    exact echoes
  cases notification with
  | initialized =>
      exact own rfl (mirrors.of_spares (.register uri full) (.register uri short) fullValid
        (mirrors.shortValid.notice .initialized))
  | opened other text =>
      by_cases same : other = uri
      · subst same
        exact own (bne_self_eq_false other) (mirrors.edit text)
      · exact foreign (bne_iff_ne.mpr same) (.edit mirrors.fullValid same text)
  | changed other texts =>
      by_cases same : other = uri
      · subst same
        refine own (bne_self_eq_false other) ?_
        rw [Server.notice, Server.notice]
        cases texts.getLast? with
        | none => exact mirrors.unchanged
        | some text => exact mirrors.edit text
      · refine foreign (bne_iff_ne.mpr same) ?_
        rw [Server.notice]
        cases texts.getLast? with
        | none => exact .refl uri full
        | some text => exact .edit mirrors.fullValid same text
  | closed other =>
      by_cases same : other = uri
      · subst same
        exact own (bne_self_eq_false other) mirrors.close
      · exact foreign (bne_iff_ne.mpr same) (.close same)
  | configured payload => exact own rfl (mirrors.reconfigure payload)
  | exit => exact own rfl mirrors.unchanged
  | ignored => exact own rfl mirrors.unchanged

theorem Mirrors.answer (mirrors : Mirrors uri renumber full short)
    (oneToOne : OneToOne renumber) (id : RequestId) (result : Json) :
    Echoes uri renumber (full.receive id result)
      (short.advance ((Event.response id result).restrict? uri renumber)) := by
  have fullValid := mirrors.fullValid.receive id result
  rw [Event.restrict?]
  cases found : renumber id with
  | none =>
      have unasked : (id, uri) ∉ full.configuration.pending := by
        intro waiting
        obtain ⟨other, same, _⟩ := mirrors.forward id waiting
        cases found.symm.trans same
      exact mirrors.of_spares (.receive mirrors.fullValid unasked result) (.refl uri short)
        fullValid mirrors.shortValid
  | some other =>
      by_cases waiting : (id, uri) ∈ full.configuration.pending
      · obtain ⟨counterpart, same, waiting'⟩ := mirrors.forward id waiting
        cases found.symm.trans same
        exact mirrors.receive waiting waiting' result
      · have unasked : (other, uri) ∉ short.configuration.pending := by
          intro waiting'
          obtain ⟨original, same, old⟩ := mirrors.backward other waiting'
          exact waiting (oneToOne same found ▸ old)
        exact mirrors.of_spares (.receive mirrors.fullValid waiting result)
          (.receive mirrors.shortValid unasked result) fullValid
          (mirrors.shortValid.receive other result)

theorem Mirrors.step (mirrors : Mirrors uri renumber full short)
    (oneToOne : OneToOne renumber) (event : Event) :
    Echoes uri renumber (full.step event) (short.advance (event.restrict? uri renumber)) := by
  cases event with
  | request id request =>
      constructor
      · rfl
      · rfl
      · exact fun _ => mirrors
  | notification notification => exact mirrors.notice notification
  | response id result => exact mirrors.answer oneToOne id result

end Server

end KarelLint.Session
