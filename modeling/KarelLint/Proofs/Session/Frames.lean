import KarelLint.Proofs.Session.Consistency

/-! What an operation on one document leaves alone. All that the server keeps about another
document stays as it is, and no message mentions that document. -/

set_option autoImplicit false

namespace KarelLint.Session

namespace ServerMessage

/-- A message about a document. -/
def Mentions (uri : Uri) : ServerMessage → Prop
  | askSettings _ other => other = uri
  | publish other _ _ => other = uri
  | answer _ _ => False
  | registerChanges _ => False

/-- The document whose problems a message shows. -/
def shown? : ServerMessage → Option Uri
  | publish uri _ _ => some uri
  | _ => none

theorem mentions_of_shown? {uri : Uri} {message : ServerMessage}
    (shown : message.shown? = some uri) : message.Mentions uri := by
  cases message with
  | publish other related diagnostics => exact Option.some.inj shown
  | answer id reply => cases shown
  | askSettings id other => cases shown
  | registerChanges id => cases shown

end ServerMessage

namespace Server

/-- Two servers that keep the same about a document, apart from the open questions. -/
structure Alike (uri : Uri) (server next : Server) : Prop where
  related : next.relatedInformation = server.relatedInformation
  client : next.configuration.perDocument = server.configuration.perDocument
  shared : next.configuration.shared = server.configuration.shared
  text : next.documents.get? uri = server.documents.get? uri
  table : next.tables.get? uri = server.tables.get? uri
  cached : next.configuration.cached.get? uri = server.configuration.cached.get? uri

namespace Alike

variable {uri : Uri} {server middle last : Server}

theorem refl (uri : Uri) (server : Server) : Alike uri server server :=
  ⟨rfl, rfl, rfl, rfl, rfl, rfl⟩

theorem symm (alike : Alike uri server last) : Alike uri last server :=
  ⟨alike.related.symm, alike.client.symm, alike.shared.symm, alike.text.symm, alike.table.symm,
    alike.cached.symm⟩

theorem trans (first : Alike uri server middle) (second : Alike uri middle last) :
    Alike uri server last :=
  ⟨second.related.trans first.related, second.client.trans first.client,
    second.shared.trans first.shared, second.text.trans first.text,
    second.table.trans first.table, second.cached.trans first.cached⟩

end Alike

/-- Two servers that keep the same about a document, also the open questions. -/
structure Frame (uri : Uri) (server next : Server) : Prop extends Alike uri server next where
  pending : ∀ id,
    (id, uri) ∈ next.configuration.pending ↔ (id, uri) ∈ server.configuration.pending

theorem Frame.trans {uri : Uri} {server middle last : Server} (first : Frame uri server middle)
    (second : Frame uri middle last) : Frame uri server last where
  toAlike := first.toAlike.trans second.toAlike
  pending := fun id => (second.pending id).trans (first.pending id)

theorem Frame.accept {uri other : Uri} {server : Server} (valid : server.Consistent)
    {id : RequestId} (waiting : (id, other) ∈ server.configuration.pending)
    (different : other ≠ uri) (settings : Settings) :
    Frame uri server (server.accept id other settings) := by
  refine ⟨⟨rfl, rfl, rfl, rfl, rfl, OrderedMap.get?_insert_of_ne _ different.symm _⟩,
    fun question => ?_⟩
  constructor
  · exact List.mem_of_mem_filter
  · intro member
    refine List.mem_filter.mpr ⟨member, bne_iff_ne.mpr ?_⟩
    rintro rfl
    exact different (valid.configuration.eq_of_id waiting member)

/-- An operation that neither changes what the server keeps about a document nor sends anything
about it. -/
structure Spares (uri : Uri) (server : Server) (outcome : Server × List ServerMessage) :
    Prop where
  frame : Frame uri server outcome.1
  silent : ∀ message ∈ outcome.2, ¬ message.Mentions uri

namespace Spares

variable {uri other : Uri} {server : Server}

theorem quiet {next : Server} (frame : Frame uri server next) : Spares uri server (next, []) where
  frame := frame
  silent := by simp

theorem refl (uri : Uri) (server : Server) : Spares uri server (server, []) :=
  quiet ⟨.refl uri server, fun _ => Iff.rfl⟩

theorem trans {middle last : Server} {first second : List ServerMessage}
    (left : Spares uri server (middle, first)) (right : Spares uri middle (last, second)) :
    Spares uri server (last, first ++ second) where
  frame := left.frame.trans right.frame
  silent := List.forall_mem_append.mpr ⟨left.silent, right.silent⟩

theorem answer (uri : Uri) (server : Server) (id : RequestId) (reply : Reply) :
    Spares uri server (server, [.answer id reply]) where
  frame := ⟨.refl uri server, fun _ => Iff.rfl⟩
  silent := by
    intro message member
    rw [List.mem_singleton.mp member]
    exact not_false

theorem publish (different : other ≠ uri) (settings : Settings) :
    Spares uri server (server.publish other settings) := by
  rw [Server.publish]
  split
  · exact refl uri server
  · constructor
    · exact ⟨⟨rfl, rfl, rfl, rfl, OrderedMap.get?_insert_of_ne _ different.symm _, rfl⟩,
        fun _ => Iff.rfl⟩
    · intro message member
      rw [List.mem_singleton.mp member]
      exact different

theorem refresh (valid : server.Consistent) (different : other ≠ uri) :
    Spares uri server (server.refresh other) := by
  rcases server.refresh_cases other with ⟨settings, _, done⟩ | ⟨_, _, done⟩ | ⟨_, _, _, done⟩
  · rw [done]
    exact publish different settings
  · rw [done]
    exact refl uri server
  · have asked := Configuration.asked_of_fresh valid.configuration.fresh other
    rw [done, nextRequest, asked]
    constructor
    · refine ⟨⟨rfl, rfl, rfl, rfl, rfl, rfl⟩, fun id => ?_⟩
      simp [different.symm]
    · intro message member
      rw [List.mem_singleton.mp member]
      exact different

theorem refreshAll (valid : server.Consistent) {order : List Uri}
    (opened : ∀ other ∈ order, server.IsOpen other) (absent : uri ∉ order) :
    Spares uri server (server.refreshAll order) := by
  induction order generalizing server with
  | nil => exact refl uri server
  | cons first later ih =>
      have different : first ≠ uri := fun same => absent (same ▸ List.mem_cons_self)
      have stillOpen : ∀ other ∈ later, (server.refresh first).1.IsOpen other :=
        fun other member => (opened other (List.mem_cons_of_mem _ member)).refresh first
      rw [refreshAll_cons]
      refine (refresh valid different).trans
        (ih (valid.refresh (opened first List.mem_cons_self)) stillOpen ?_)
      exact fun member => absent (List.mem_cons_of_mem _ member)

theorem edit (valid : server.Consistent) (different : other ≠ uri) (text : String) :
    Spares uri server (server.edit other text) := by
  have opened : Frame uri server
      { server with documents := server.documents.insert other text } :=
    ⟨⟨rfl, rfl, rfl, OrderedMap.get?_insert_of_ne _ different.symm _, rfl, rfl⟩,
      fun _ => Iff.rfl⟩
  exact (quiet opened).trans (refresh (valid.insert other text) different)

theorem close (different : other ≠ uri) : Spares uri server (server.close other, []) := by
  apply quiet
  refine ⟨⟨rfl, rfl, rfl, OrderedMap.get?_erase_of_ne _ different.symm,
    OrderedMap.get?_erase_of_ne _ different.symm, OrderedMap.get?_erase_of_ne _ different.symm⟩,
    fun id => ?_⟩
  simp [Server.close, Configuration.forget, different.symm]

theorem register (uri : Uri) (server : Server) : Spares uri server server.register := by
  rw [Server.register]
  split
  · constructor
    · exact ⟨⟨rfl, rfl, rfl, rfl, rfl, rfl⟩, fun _ => Iff.rfl⟩
    · intro message member
      rw [List.mem_singleton.mp member]
      exact not_false
  · exact refl uri server

/-- An answer to no open question about a document does not concern the document. -/
theorem receive (valid : server.Consistent) {id : RequestId}
    (unasked : (id, uri) ∉ server.configuration.pending) (result : Json) :
    Spares uri server (server.receive id result) := by
  rcases server.receive_cases id result with ⟨_, taken⟩ | ⟨_, taken⟩ | ⟨other, waiting, taken⟩
  · rw [taken]
    exact quiet ⟨⟨rfl, rfl, rfl, rfl, rfl, rfl⟩, fun _ => Iff.rfl⟩
  · rw [taken]
    exact refl uri server
  · have different : other ≠ uri := by
      rintro rfl
      exact unasked waiting
    rw [taken]
    exact (quiet (.accept valid waiting different _)).trans (publish different _)

end Spares

end Server

end KarelLint.Session
