import KarelLint.Proofs.Session.Frames
import KarelLint.Proofs.Session.History
import Mathlib.Logic.Equiv.Basic

/-! After a change of the configuration the server goes through the open documents. The order in
which it takes them has no effect but on the order of its messages and, if the client is asked,
on which document gets which of the next numbers. -/

set_option autoImplicit false

namespace KarelLint.Session

open KarelLint.Diagnosis

/-! ## Questions with consecutive numbers -/

/-- Questions about some documents, numbered from a given number on. -/
def questionsFrom (next : Nat) (order : List Uri) : List (RequestId × Uri) :=
  (order.zipIdx next).map fun entry => (.number entry.2, entry.1)

@[simp] theorem questionsFrom_nil (next : Nat) : questionsFrom next [] = [] := rfl

@[simp] theorem questionsFrom_cons (next : Nat) (uri : Uri) (later : List Uri) :
    questionsFrom next (uri :: later) =
      (.number next, uri) :: questionsFrom (next + 1) later := rfl

/-- The numbers of that many questions, from a given number on. -/
def numbersFrom (next count : Nat) : List RequestId :=
  (List.range' next count).map fun number : Nat => .number number

theorem mem_numbersFrom {next count number : Nat} :
    RequestId.number number ∈ numbersFrom next count ↔ next ≤ number ∧ number < next + count := by
  constructor
  · intro member
    obtain ⟨found, within, same⟩ := List.mem_map.mp member
    injection same with same
    have bounds := List.mem_range'_1.mp within
    omega
  · intro within
    exact List.mem_map_of_mem (List.mem_range'_1.mpr within)

theorem map_fst_questionsFrom (next : Nat) (order : List Uri) :
    (questionsFrom next order).map (·.1) = numbersFrom next order.length := by
  induction order generalizing next with
  | nil => rfl
  | cons uri later ih => simp [ih, numbersFrom, List.range'_succ]

/-- Other numbers for some questions. -/
def renumbered (renumber : Equiv.Perm RequestId) (questions : List (RequestId × Uri)) :
    List (RequestId × Uri) :=
  questions.map fun question => (renumber question.1, question.2)

theorem renumbered_of_fixed {renumber : Equiv.Perm RequestId} {next : Nat} {order : List Uri}
    (fixed : ∀ number : Nat, next ≤ number → renumber (.number number) = .number number) :
    renumbered renumber (questionsFrom next order) = questionsFrom next order := by
  induction order generalizing next with
  | nil => rfl
  | cons uri later ih =>
      rw [questionsFrom_cons, renumbered, List.map_cons, fixed next (Nat.le_refl next)]
      exact congrArg _ (ih fun number above => fixed number (Nat.le_of_succ_le above))

/-- Two orders of the same documents differ in which document has which number. -/
theorem exists_renumbering {first second : List Uri} (reordered : first.Perm second)
    (next : Nat) :
    ∃ renumber : Equiv.Perm RequestId,
      (∀ id, id ∉ numbersFrom next first.length → renumber id = id) ∧
        (questionsFrom next second).Perm (renumbered renumber (questionsFrom next first)) := by
  induction reordered generalizing next with
  | nil => exact ⟨Equiv.refl _, fun _ _ => rfl, .refl _⟩
  | @cons uri first second reordered ih =>
      obtain ⟨renumber, fixed, same⟩ := ih (next + 1)
      have kept : renumber (.number next) = .number next := by
        apply fixed
        rw [mem_numbersFrom]
        omega
      refine ⟨renumber, ?_, ?_⟩
      · intro id outside
        apply fixed
        intro inside
        exact outside (List.mem_cons_of_mem _ inside)
      · rw [questionsFrom_cons, questionsFrom_cons, renumbered, List.map_cons, kept]
        exact same.cons _
  | swap left right later =>
      -- The two documents trade their numbers, and all later ones keep theirs.
      refine ⟨Equiv.swap (.number next) (.number ((next + 1 : Nat) : Int)), ?_, ?_⟩
      · intro id outside
        apply Equiv.swap_apply_of_ne_of_ne
        · rintro rfl
          exact outside List.mem_cons_self
        · rintro rfl
          exact outside (List.mem_cons_of_mem _ List.mem_cons_self)
      · have fixed : renumbered (Equiv.swap (.number next) (.number ((next + 1 : Nat) : Int)))
            (questionsFrom (next + 2) later) = questionsFrom (next + 2) later := by
          apply renumbered_of_fixed
          intro number above
          apply Equiv.swap_apply_of_ne_of_ne
          · intro same
            injection same with same
            omega
          · intro same
            injection same with same
            omega
        simp only [questionsFrom_cons, renumbered, List.map_cons, Equiv.swap_apply_left,
          Equiv.swap_apply_right] at fixed ⊢
        rw [fixed]
        exact .swap _ _ _
  | trans earlier later ihEarlier ihLater =>
      obtain ⟨one, fixedOne, sameOne⟩ := ihEarlier next
      obtain ⟨other, fixedOther, sameOther⟩ := ihLater next
      refine ⟨one.trans other, ?_, ?_⟩
      · intro id outside
        rw [Equiv.trans_apply, fixedOne id outside]
        exact fixedOther id (earlier.length_eq ▸ outside)
      · refine sameOther.trans ?_
        have again := sameOne.map fun question => (other question.1, question.2)
        rw [renumbered, List.map_map] at again
        exact again

namespace Server

/-! ## A client that is not asked -/

/-- What a walk through open documents does if all documents share their settings: each one is
checked and its problems are shown, and only the tables change. -/
structure ChecksEach (server : Server) (order : List Uri)
    (outcome : Server × List ServerMessage) : Prop where
  tables : outcome.1 = { server with tables := outcome.1.tables }
  table : ∀ uri, outcome.1.tables.get? uri =
    if uri ∈ order then (server.documents.get? uri).map fun text =>
      (check text server.configuration.shared.limit).table
    else server.tables.get? uri
  messages : outcome.2 = order.filterMap fun uri => (server.documents.get? uri).map fun text =>
    .publish uri server.relatedInformation
      (Diagnostic.ofProblems text (check text server.configuration.shared.limit).problems)
  shown : outcome.2.map ServerMessage.shown? = order.map some

theorem refreshAll_of_shared {server : Server}
    (shared : server.configuration.perDocument = false) {order : List Uri}
    (opened : ∀ uri ∈ order, server.IsOpen uri) :
    server.ChecksEach order (server.refreshAll order) := by
  induction order generalizing server with
  | nil => exact ⟨rfl, fun _ => rfl, rfl, rfl⟩
  | cons uri later ih =>
      obtain ⟨text, found⟩ := opened uri List.mem_cons_self
      have known : server.configuration.settings? uri = some server.configuration.shared := by
        rw [Configuration.settings?, shared]
        rfl
      rw [refreshAll_cons, refresh_of_known known, publish_of_open found]
      let table := (check text server.configuration.shared.limit).table
      have rest := @ih { server with tables := server.tables.insert uri table } shared
        fun other member => opened other (List.mem_cons_of_mem _ member)
      constructor
      case tables => exact rest.tables
      case table =>
        intro other
        rw [rest.table other]
        by_cases last : other ∈ later
        · rw [if_pos last, if_pos (List.mem_cons_of_mem _ last)]
        · rw [if_neg last, OrderedMap.get?_insert]
          by_cases same : other = uri
          · subst same
            simp [found, table]
          · simp [same, last]
      case messages =>
        rw [List.filterMap_cons, found]
        exact congrArg _ rest.messages
      case shown => exact congrArg (some uri :: ·) rest.shown

theorem ChecksEach.eq_of_perm {server : Server} {first second : List Uri}
    {one other : Server × List ServerMessage} (left : server.ChecksEach first one)
    (right : server.ChecksEach second other) (reordered : first.Perm second) :
    one.2.Perm other.2 ∧ one.1 = other.1 := by
  constructor
  · rw [left.messages, right.messages]
    exact reordered.filterMap _
  · have tables : one.1.tables = other.1.tables := by
      apply OrderedMap.ext_get?
      intro uri
      rw [left.table, right.table]
      simp only [reordered.mem_iff]
    rw [left.tables, right.tables, tables]

/-! ## A client that is asked -/

/-- The client is asked about each of some documents of which nothing is known. -/
theorem refreshAll_of_unknown {server : Server}
    (asks : server.configuration.perDocument = true) {order : List Uri} (distinct : order.Nodup)
    (uncached : ∀ uri ∈ order, server.configuration.cached.get? uri = none)
    (idle : ∀ uri ∈ order, ∀ id, (id, uri) ∉ server.configuration.pending)
    (issued : ∀ question ∈ server.configuration.pending,
      question.1.IssuedBefore server.nextId) :
    server.refreshAll order =
      ({ server with
          configuration :=
            { server.configuration with
              pending := (questionsFrom server.nextId order).reverse ++
                server.configuration.pending }
          nextId := server.nextId + order.length },
        (questionsFrom server.nextId order).map fun question =>
          .askSettings question.1 question.2) := by
  induction order generalizing server with
  | nil => rfl
  | cons uri later ih =>
      obtain ⟨absent, distinctLater⟩ := List.nodup_cons.mp distinct
      have first : server.refresh uri =
          ({ server with
              configuration :=
                { server.configuration with
                  pending := (server.nextRequest, uri) :: server.configuration.pending }
              nextId := server.nextId + 1 },
            [.askSettings server.nextRequest uri]) := by
        have unknown := Configuration.settings?_of_uncached asks (uncached uri List.mem_cons_self)
        have fresh := fun question member => (issued question member).ne
        rw [refresh_of_missing unknown (idle uri List.mem_cons_self), nextRequest,
          Configuration.asked_of_fresh fresh]
      rw [refreshAll_cons, first]
      dsimp only
      rw [ih]
      · simp [nextRequest, Nat.add_assoc, Nat.add_comm 1]
      · exact asks
      · exact distinctLater
      · exact fun other member => uncached other (List.mem_cons_of_mem _ member)
      · intro other member id waiting
        rcases List.mem_cons.mp waiting with same | old
        · cases same
          exact absent member
        · exact idle other (List.mem_cons_of_mem _ member) id old
      · intro question member
        rcases List.mem_cons.mp member with rfl | old
        · exact .of_next server.nextId
        · exact (issued question old).mono (Nat.le_succ _)

/-- What a change of the configuration does if the client is asked: there is one question about
each open document, and nothing else is known or awaited. -/
structure AsksEach (server : Server) (order : List Uri)
    (outcome : Server × List ServerMessage) : Prop where
  messages : outcome.2 = (questionsFrom server.nextId order).map fun question =>
    .askSettings question.1 question.2
  numbers : (questionsFrom server.nextId order).map (·.1) =
    numbersFrom server.nextId server.documents.size
  next : outcome.1.nextId = server.nextId + server.documents.size
  cached : outcome.1.configuration.cached = ∅
  superseded : ∀ question ∈ server.configuration.pending,
    question.1 ∈ outcome.1.configuration.superseded

theorem reconfigure_of_asked {server : Server}
    (asks : server.configuration.perDocument = true) (payload : Json) {order : List Uri}
    (distinct : order.Nodup) :
    server.reconfigure payload order =
      ({ server with
          configuration :=
            { server.configuration with
              cached := ∅
              pending := (questionsFrom server.nextId order).reverse
              superseded := server.configuration.pending.map (·.1) ++
                server.configuration.superseded }
          nextId := server.nextId + order.length },
        (questionsFrom server.nextId order).map fun question =>
          .askSettings question.1 question.2) := by
  rw [reconfigure, Configuration.change, if_pos asks, refreshAll_of_unknown]
  · simp
  · exact asks
  · exact distinct
  · exact fun uri _ => OrderedMap.get?_empty uri
  · exact fun _ _ _ => List.not_mem_nil
  · exact fun _ member => absurd member List.not_mem_nil

theorem asksEach_of_asked {server : Server} (asks : server.configuration.perDocument = true)
    (payload : Json) {order : List Uri} (walks : order.Perm server.documents.keys) :
    server.AsksEach order (server.reconfigure payload order) := by
  have size : order.length = server.documents.size :=
    walks.length_eq.trans (List.length_map _)
  rw [reconfigure_of_asked asks payload (walks.nodup_iff.mpr server.documents.nodup_keys)]
  constructor
  case messages => rfl
  case numbers => rw [map_fst_questionsFrom, size]
  case next => exact congrArg _ size
  case cached => rfl
  case superseded =>
    intro question member
    exact List.mem_append_left _ (List.mem_map_of_mem member)

theorem checksEach_of_shared {server : Server}
    (shared : server.configuration.perDocument = false) (payload : Json) {order : List Uri}
    (walks : order.Perm server.documents.keys) :
    { server with configuration := server.configuration.change payload }.ChecksEach order
      (server.reconfigure payload order) := by
  apply refreshAll_of_shared
  · rw [Configuration.change, shared]
    rfl
  · intro uri member
    exact isOpen_of_mem_keys (walks.mem_iff.mp member)

/-- The order in which the open documents are checked after a change of the configuration does
not matter. -/
theorem walk_order_immaterial (server : Server) (payload : Json) (first second : List Uri)
    (walksFirst : first.Perm server.documents.keys)
    (walksSecond : second.Perm server.documents.keys) :
    let one := server.reconfigure payload first
    let other := server.reconfigure payload second
    server.documents.keys.Nodup ∧
      (server.configuration.perDocument = false →
        one.2.map ServerMessage.shown? = first.map some ∧
          other.2.map ServerMessage.shown? = second.map some ∧
          one.2.Perm other.2 ∧ one.1 = other.1) ∧
      (server.configuration.perDocument = true →
        server.AsksEach first one ∧ server.AsksEach second other ∧
          other.1 = { one.1 with
            configuration :=
              { one.1.configuration with pending := other.1.configuration.pending } } ∧
          ∃ renumber : Equiv.Perm RequestId,
            (∀ id, id ∉ numbersFrom server.nextId server.documents.size → renumber id = id) ∧
              other.1.configuration.pending.Perm
                (renumbered renumber one.1.configuration.pending)) := by
  intro one other
  have reordered : first.Perm second := walksFirst.trans walksSecond.symm
  have distinct := server.documents.nodup_keys
  refine ⟨distinct, ?shared, ?asked⟩
  case shared =>
    intro shared
    have left := checksEach_of_shared shared payload walksFirst
    have right := checksEach_of_shared shared payload walksSecond
    exact ⟨left.shown, right.shown, left.eq_of_perm right reordered⟩
  case asked =>
    intro asks
    have left : one = _ :=
      reconfigure_of_asked asks payload (walksFirst.nodup_iff.mpr distinct)
    have right : other = _ :=
      reconfigure_of_asked asks payload (walksSecond.nodup_iff.mpr distinct)
    refine ⟨asksEach_of_asked asks payload walksFirst,
      asksEach_of_asked asks payload walksSecond, ?same, ?renumbering⟩
    case same => rw [left, right, reordered.length_eq]
    case renumbering =>
      have size : first.length = server.documents.size :=
        walksFirst.length_eq.trans (List.length_map _)
      obtain ⟨renumber, fixed, same⟩ := exists_renumbering reordered server.nextId
      refine ⟨renumber, size ▸ fixed, ?_⟩
      rw [left, right]
      refine (List.reverse_perm _).trans (same.trans ?_)
      exact ((List.reverse_perm _).map _).symm

/-- The server once a client has opened two documents. -/
def twoDocuments (client : Client) : Server :=
  ((start client).run [.notification (.opened sampleUri "climb();"),
    .notification (.opened secondUri "turnLeft();")]).1

theorem walk_order_immaterial_twoDocuments :
    let asked := twoDocuments askedClient
    let shared := twoDocuments { askedClient with configuration := false }
    [sampleUri, secondUri].Perm asked.documents.keys ∧
      [secondUri, sampleUri].Perm asked.documents.keys ∧
      asked.AsksEach [secondUri, sampleUri] (asked.reconfigure .null [secondUri, sampleUri]) ∧
      (shared.reconfigure .null [sampleUri, secondUri]).1 =
        (shared.reconfigure .null [secondUri, sampleUri]).1 := by
  intro asked shared
  have ascending : [sampleUri, secondUri].Perm asked.documents.keys := .refl _
  have descending : [secondUri, sampleUri].Perm asked.documents.keys := .swap _ _ _
  have ofAsked := walk_order_immaterial asked .null _ _ ascending descending
  have ofShared := walk_order_immaterial shared .null _ _ ascending descending
  exact ⟨ascending, descending, (ofAsked.2.2 rfl).2.1, (ofShared.2.1 rfl).2.2.2⟩

end Server

end KarelLint.Session
