import KarelLint.OrderedMap.Lookup
import KarelLint.Session.Server

/-! What each operation of a session can do. One law for each operation lists its cases with
what they require, and the proofs about whole sessions rest on these laws alone. -/

set_option autoImplicit false

namespace KarelLint.Session

/-! ## Settings -/

namespace Configuration

/-- The settings that are known of a document: the answer of a client that is asked, or what
all documents of another client share. -/
def settings? (configuration : Configuration) (uri : Uri) : Option Settings :=
  if configuration.perDocument then configuration.cached.get? uri
  else some configuration.shared

theorem isWaiting_iff {configuration : Configuration} {uri : Uri} :
    configuration.isWaiting uri = true ↔ ∃ id, (id, uri) ∈ configuration.pending := by
  simp [isWaiting]

theorem availability_cases (configuration : Configuration) (uri : Uri) :
    (∃ settings, configuration.settings? uri = some settings ∧
      configuration.availability uri = .known settings) ∨
    (configuration.settings? uri = none ∧ (∃ id, (id, uri) ∈ configuration.pending) ∧
      configuration.availability uri = .awaited) ∨
    (configuration.perDocument = true ∧ configuration.cached.get? uri = none ∧
      (∀ id, (id, uri) ∉ configuration.pending) ∧
      configuration.availability uri = .missing) := by
  unfold availability settings?
  cases asked : configuration.perDocument with
  | false => exact .inl ⟨configuration.shared, rfl, rfl⟩
  | true =>
      cases known : configuration.cached.get? uri with
      | some settings => exact .inl ⟨settings, rfl, rfl⟩
      | none =>
          cases waiting : configuration.isWaiting uri with
          | true => exact .inr (.inl ⟨rfl, isWaiting_iff.mp waiting, rfl⟩)
          | false =>
              refine .inr (.inr ⟨rfl, rfl, ?_, rfl⟩)
              intro id member
              rw [isWaiting_iff.mpr ⟨id, member⟩] at waiting
              cases waiting

theorem settings?_of_uncached {configuration : Configuration} {uri : Uri}
    (asks : configuration.perDocument = true) (uncached : configuration.cached.get? uri = none) :
    configuration.settings? uri = none := by
  rw [settings?, if_pos asks, uncached]

theorem not_mem_pending_of_lookup {configuration : Configuration} {id : RequestId}
    (missing : configuration.pending.lookup id = none) (uri : Uri) :
    (id, uri) ∉ configuration.pending := by
  intro member
  simpa using List.lookup_eq_none_iff.mp missing _ member

theorem receive_of_pending {configuration : Configuration} {id : RequestId} {uri : Uri}
    (current : id ∉ configuration.superseded)
    (waiting : configuration.pending.lookup id = some uri) (result : Json) :
    configuration.receive id result =
      ({ configuration with
          cached := configuration.cached.insert uri (answered result)
          pending := configuration.pending.filter fun question => question.1 != id },
        some (uri, answered result)) := by
  rw [receive, if_neg (by simpa using current), waiting]

theorem receive_of_unknown {configuration : Configuration} {id : RequestId}
    (current : id ∉ configuration.superseded)
    (missing : configuration.pending.lookup id = none) (result : Json) :
    configuration.receive id result = (configuration, none) := by
  rw [receive, if_neg (by simpa using current), missing]

/-- An answer is dropped because it comes too late, or because nobody waits for it, or it
settles the one question that it answers. -/
theorem receive_cases (configuration : Configuration) (id : RequestId) (result : Json) :
    (id ∈ configuration.superseded ∧
      configuration.receive id result =
        ({ configuration with superseded := configuration.superseded.filter (· != id) }, none)) ∨
    ((∀ uri, (id, uri) ∉ configuration.pending) ∧
      configuration.receive id result = (configuration, none)) ∨
    (∃ uri, id ∉ configuration.superseded ∧ (id, uri) ∈ configuration.pending ∧
      configuration.receive id result =
        ({ configuration with
            cached := configuration.cached.insert uri (answered result)
            pending := configuration.pending.filter fun question => question.1 != id },
          some (uri, answered result))) := by
  by_cases late : id ∈ configuration.superseded
  · exact .inl ⟨late, by rw [receive, if_pos (List.contains_iff_mem.mpr late)]⟩
  · cases found : configuration.pending.lookup id with
    | none =>
        exact .inr (.inl ⟨not_mem_pending_of_lookup found, receive_of_unknown late found result⟩)
    | some uri =>
        exact .inr (.inr ⟨uri, late, OrderedMap.mem_of_lookup found,
          receive_of_pending late found result⟩)

theorem asked_of_fresh {configuration : Configuration} {id : RequestId}
    (fresh : ∀ question ∈ configuration.pending, question.1 ≠ id) (uri : Uri) :
    configuration.asked id uri =
      { configuration with pending := (id, uri) :: configuration.pending } := by
  have kept : (configuration.pending.filter fun question => question.1 != id) =
      configuration.pending := by
    apply List.filter_eq_self.mpr
    intro question member
    exact bne_iff_ne.mpr (fresh question member)
  rw [asked, kept]

end Configuration

/-! ## The server -/

namespace Server

theorem publish_of_open {server : Server} {uri : Uri} {text : String}
    (found : server.documents.get? uri = some text) (settings : Settings) :
    server.publish uri settings =
      ({ server with
          tables := server.tables.insert uri (Diagnosis.check text settings.limit).table },
        [.publish uri server.relatedInformation
          (Diagnostic.ofProblems text (Diagnosis.check text settings.limit).problems)]) := by
  rw [publish, found]

/-- A document whose settings are known is checked, one for which the client has been asked
is left alone, and the client is asked about any other one. -/
theorem refresh_cases (server : Server) (uri : Uri) :
    (∃ settings, server.configuration.settings? uri = some settings ∧
      server.refresh uri = server.publish uri settings) ∨
    (server.configuration.settings? uri = none ∧
      (∃ id, (id, uri) ∈ server.configuration.pending) ∧
      server.refresh uri = (server, [])) ∨
    (server.configuration.perDocument = true ∧ server.configuration.cached.get? uri = none ∧
      (∀ id, (id, uri) ∉ server.configuration.pending) ∧
      server.refresh uri =
        ({ server with
            configuration := server.configuration.asked server.nextRequest uri
            nextId := server.nextId + 1 },
          [.askSettings server.nextRequest uri])) := by
  unfold refresh Configuration.consult
  rcases server.configuration.availability_cases uri with
    ⟨settings, known, available⟩ | ⟨unknown, waiting, available⟩ |
      ⟨asks, uncached, idle, available⟩
  · exact .inl ⟨settings, known, by rw [available]⟩
  · exact .inr (.inl ⟨unknown, waiting, by rw [available]⟩)
  · exact .inr (.inr ⟨asks, uncached, idle, by rw [available]⟩)

theorem refresh_of_known {server : Server} {uri : Uri} {settings : Settings}
    (known : server.configuration.settings? uri = some settings) :
    server.refresh uri = server.publish uri settings := by
  rcases server.refresh_cases uri with ⟨_, found, done⟩ | ⟨unknown, _⟩ | ⟨asks, uncached, _⟩
  · cases known.symm.trans found
    exact done
  · cases known.symm.trans unknown
  · rw [Configuration.settings?, if_pos asks, uncached] at known
    cases known

theorem refresh_of_awaited {server : Server} {uri : Uri} {id : RequestId}
    (unknown : server.configuration.settings? uri = none)
    (waiting : (id, uri) ∈ server.configuration.pending) : server.refresh uri = (server, []) := by
  rcases server.refresh_cases uri with ⟨_, known, _⟩ | ⟨_, _, done⟩ | ⟨_, _, idle, _⟩
  · cases unknown.symm.trans known
  · exact done
  · exact absurd waiting (idle id)

theorem refresh_of_missing {server : Server} {uri : Uri}
    (unknown : server.configuration.settings? uri = none)
    (idle : ∀ id, (id, uri) ∉ server.configuration.pending) :
    server.refresh uri =
      ({ server with
          configuration := server.configuration.asked server.nextRequest uri
          nextId := server.nextId + 1 },
        [.askSettings server.nextRequest uri]) := by
  rcases server.refresh_cases uri with ⟨_, known, _⟩ | ⟨_, ⟨id, waiting⟩, _⟩ | ⟨_, _, _, done⟩
  · cases unknown.symm.trans known
  · exact absurd waiting (idle id)
  · exact done

/-- The server once it has taken the settings of a document from the answer to a question. -/
def accept (server : Server) (id : RequestId) (uri : Uri) (settings : Settings) : Server :=
  { server with
    configuration :=
      { server.configuration with
        cached := server.configuration.cached.insert uri settings
        pending := server.configuration.pending.filter fun question => question.1 != id } }

theorem receive_cases (server : Server) (id : RequestId) (result : Json) :
    (id ∈ server.configuration.superseded ∧
      server.receive id result =
        ({ server with
            configuration :=
              { server.configuration with
                superseded := server.configuration.superseded.filter (· != id) } }, [])) ∨
    ((∀ uri, (id, uri) ∉ server.configuration.pending) ∧
      server.receive id result = (server, [])) ∨
    (∃ uri, (id, uri) ∈ server.configuration.pending ∧
      server.receive id result =
        (server.accept id uri (Configuration.answered result)).publish uri
          (Configuration.answered result)) := by
  unfold receive
  rcases server.configuration.receive_cases id result with
    ⟨late, taken⟩ | ⟨unknown, taken⟩ | ⟨uri, _, waiting, taken⟩
  · exact .inl ⟨late, by rw [taken]⟩
  · exact .inr (.inl ⟨unknown, by rw [taken]⟩)
  · exact .inr (.inr ⟨uri, waiting, by rw [taken]; rfl⟩)

@[simp] theorem refreshAll_nil (server : Server) : server.refreshAll [] = (server, []) := rfl

theorem refreshAll_cons (server : Server) (uri : Uri) (later : List Uri) :
    server.refreshAll (uri :: later) =
      (((server.refresh uri).1.refreshAll later).1,
        (server.refresh uri).2 ++ ((server.refresh uri).1.refreshAll later).2) := rfl

@[simp] theorem run_nil (server : Server) : server.run [] = (server, []) := rfl

theorem run_cons (server : Server) (event : Event) (later : List Event) :
    server.run (event :: later) =
      (((server.step event).1.run later).1,
        (server.step event).2 ++ ((server.step event).1.run later).2) := rfl

theorem run_append (server : Server) (earlier later : List Event) :
    server.run (earlier ++ later) =
      (((server.run earlier).1.run later).1,
        (server.run earlier).2 ++ ((server.run earlier).1.run later).2) := by
  induction earlier generalizing server with
  | nil => rfl
  | cons event earlier ih =>
      rw [List.cons_append, run_cons, run_cons, ih, List.append_assoc]

end Server

end KarelLint.Session
