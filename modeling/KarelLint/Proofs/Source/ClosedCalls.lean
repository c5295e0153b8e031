import KarelLint.Proofs.Source.CallSites
import KarelLint.Proofs.Source.Findings

/-! The calls of a text are the closed calls that stand in it: each is found, whether it stands
inside the arguments of another one or after a parenthesis that nothing closes. -/

set_option autoImplicit false

namespace KarelLint

namespace Text

theorem exists_of_slice? {front tail part : List Char} {stop : Nat}
    (sliced : slice? (front ++ tail) (byteLength front) stop = some part)
    (later : byteLength front ≤ stop) :
    ∃ after, tail = part ++ after ∧ stop = byteLength front + byteLength part := by
  obtain ⟨_, first, sliced⟩ := Option.bind_eq_some_iff.mp sliced
  rw [cut?_byteLength_append] at first
  cases first
  obtain ⟨⟨inner, after⟩, second, same⟩ := Option.bind_eq_some_iff.mp sliced
  cases same
  obtain ⟨split, size⟩ := cut?_eq_some second
  exact ⟨after, split, by omega⟩

end Text

namespace Source

open Text

/-- A call whose parenthesis is closed. Its name starts at an offset where there is a word
boundary, and the parenthesis at the offset `close` is the one that closes it. -/
structure ClosedCall (text : List Char) (offset : Nat) (name arguments : List Char)
    (close : Nat) : Prop where
  boundary : ∃ before after, text = before ++ after ∧ offset = byteLength before ∧
    wordBoundary before.getLast? after.head? = true
  identifier : IsIdentifier name
  opens : StandsAt 0 text offset (name ++ ['('])
  follows : offset + byteLength (name ++ ['(']) ≤ close
  between : slice? text (offset + byteLength (name ++ ['('])) close = some arguments
  balanced : Balanced arguments
  closes : charAt? text close = some ')'

/-- The offset of the parenthesis that closes a call. -/
def closeOffset (offset : Nat) (name arguments : List Char) : Nat :=
  offset + byteLength (name ++ ['(']) + byteLength arguments

/-- A closed call is one that is read where its name starts. -/
theorem closedCall_iff {text name arguments : List Char} {offset close : Nat} :
    ClosedCall text offset name arguments close ↔
      ∃ before rest, text = before ++ rest ∧ offset = byteLength before ∧
        callHead? before.getLast? rest = some (name, arguments) ∧
        close = closeOffset offset name arguments := by
  constructor
  · intro call
    obtain ⟨before, rest, rfl, rfl, boundary⟩ := call.boundary
    obtain ⟨before', tail, split, size⟩ := call.opens
    obtain ⟨rfl, rfl⟩ := append_inj_of_byteLength split (by simpa using size)
    have between := call.between
    have closes := call.closes
    rw [← byteLength_append, ← List.append_assoc] at between
    obtain ⟨after, rfl, place⟩ := exists_of_slice? between (by simpa using call.follows)
    rw [place, ← byteLength_append, ← List.append_assoc, ← List.append_assoc,
      charAt?_append] at closes
    obtain ⟨after, rfl⟩ := List.head?_eq_some_iff.mp closes
    refine ⟨before, _, rfl, rfl, callHead?_iff.mpr
      ⟨boundary, call.identifier, call.balanced, after, by simp⟩, ?_⟩
    rw [place, closeOffset, byteLength_append before]
  · intro ⟨before, rest, split, size, found, place⟩
    obtain ⟨boundary, identifier, balanced, after, rfl⟩ := callHead?_iff.mp found
    subst split size place
    have between : StandsAt 0 (before ++ (name ++ '(' :: (arguments ++ ')' :: after)))
        (byteLength before + byteLength (name ++ ['('])) arguments :=
      ⟨before ++ (name ++ ['(']), ')' :: after, by simp, by simp⟩
    have closes := charAt?_append (before ++ (name ++ '(' :: arguments)) (')' :: after)
    exact {
      boundary := ⟨before, _, rfl, rfl, boundary⟩
      identifier
      opens := ⟨before, arguments ++ ')' :: after, by simp, by simp⟩
      follows := Nat.le_add_right _ _
      between := between.slice
      balanced
      closes := by simpa [closeOffset, Nat.add_assoc] using closes }

theorem mem_calls_iff_closedCall {text : String} {call : Call} :
    call ∈ calls text ↔
      ∃ close, ClosedCall text.toList call.offset call.name.toList call.arguments.toList close := by
  rw [calls, mem_callsFrom_iff]
  simp only [closedCall_iff, Option.or_none, Nat.zero_add]
  constructor
  · rintro ⟨before, rest, name, arguments, split, found, same⟩
    subst same
    exact ⟨_, before, rest, split, rfl, by simpa using found, rfl⟩
  · rintro ⟨_, before, rest, split, size, found, _⟩
    refine ⟨before, rest, _, _, split, found, ?_⟩
    rw [String.ofList_toList, String.ofList_toList, ← size]

theorem ClosedCall.unique {text name name' arguments arguments' : List Char}
    {offset close close' : Nat} (call : ClosedCall text offset name arguments close)
    (call' : ClosedCall text offset name' arguments' close') :
    name = name' ∧ arguments = arguments' ∧ close = close' := by
  obtain ⟨before, rest, rfl, rfl, found, rfl⟩ := closedCall_iff.mp call
  obtain ⟨before', rest', split, size, found', rfl⟩ := closedCall_iff.mp call'
  obtain ⟨rfl, rfl⟩ := append_inj_of_byteLength split size
  cases found.symm.trans found'
  exact ⟨rfl, rfl, rfl⟩

/-- A parenthesis is no part of a word, so a word starts after it as at the start of a text. -/
theorem getLast?_any_isWord_open (front before : List Char) :
    (front ++ '(' :: before).getLast?.any isWord = before.getLast?.any isWord := by
  have mark : isWord '(' = false := by decide
  cases before with
  | nil => simp [mark]
  | cons c before => simp [List.getLast?_cons]

/-- A call of a part of the text after a parenthesis is a call of the text, whether or not the
parenthesis is closed. -/
theorem mem_calls_of_opened {text : String} {front part back : List Char}
    (split : text.toList = front ++ '(' :: (part ++ back)) {call : Call}
    (member : call ∈ calls (String.ofList part)) :
    { call with offset := byteLength front + 1 + call.offset } ∈ calls text := by
  obtain ⟨_, closed⟩ := mem_calls_iff_closedCall.mp member
  obtain ⟨before, rest, partSplit, size, found, _⟩ := closedCall_iff.mp closed
  obtain ⟨boundary, identifier, balanced, after, rfl⟩ := callHead?_iff.mp found
  rw [String.toList_ofList] at partSplit
  refine mem_calls_iff_closedCall.mpr ⟨_, closedCall_iff.mpr ⟨front ++ '(' :: before, _, ?_, ?_,
    callHead?_iff.mpr ⟨?_, identifier, balanced, after ++ back, rfl⟩, rfl⟩⟩
  · simp [split, partSplit]
  · have width : '('.utf8Size = 1 := by decide
    simp [size, width, Nat.add_assoc]
  · obtain ⟨c, tail, named, _⟩ := identifier.exists_cons
    rw [named] at boundary ⊢
    rw [wordBoundary, getLast?_any_isWord_open]
    exact boundary

/-- The calls of a text are its closed calls. They are found once each and in order, those inside
the arguments of other calls too, and a parenthesis hides no call after it. -/
theorem calls_closed (text : String) :
    (∀ offset, (∃ call ∈ calls text, call.offset = offset) ↔
      ∃ name arguments close, ClosedCall text.toList offset name arguments close) ∧
    (∀ call ∈ calls text, ∃ close,
      ClosedCall text.toList call.offset call.name.toList call.arguments.toList close ∧
      ∀ name arguments close', ClosedCall text.toList call.offset name arguments close' →
        name = call.name.toList ∧ arguments = call.arguments.toList ∧ close' = close) ∧
    (calls text).Pairwise (fun earlier later => earlier.offset < later.offset) ∧
    (∀ call ∈ calls text, ∀ inner ∈ calls call.arguments,
      { inner with offset := call.offset + call.name.utf8ByteSize + 1 + inner.offset } ∈
        calls text) ∧
    ∀ front rest, text.toList = front ++ '(' :: rest → ∀ call ∈ calls (String.ofList rest),
      { call with offset := byteLength front + 1 + call.offset } ∈ calls text := by
  refine ⟨?offsets, ?each, ?order, ?nested, ?opened⟩
  case offsets =>
    intro offset
    constructor
    · intro ⟨call, member, place⟩
      obtain ⟨close, closed⟩ := mem_calls_iff_closedCall.mp member
      exact ⟨_, _, close, place ▸ closed⟩
    · intro ⟨name, arguments, close, closed⟩
      refine ⟨⟨String.ofList name, offset, String.ofList arguments⟩,
        mem_calls_iff_closedCall.mpr ⟨close, ?_⟩, rfl⟩
      simpa using closed
  case each =>
    intro call member
    obtain ⟨close, closed⟩ := mem_calls_iff_closedCall.mp member
    exact ⟨close, closed, fun name arguments close' closed' => closed'.unique closed⟩
  case order =>
    exact List.pairwise_map.mp ((visibleFrom_ascending 0 text.toList).sublist
      (callsFrom_sublist none 0 text.toList))
  case nested =>
    intro call member inner inside
    obtain ⟨_, closed⟩ := mem_calls_iff_closedCall.mp member
    obtain ⟨before, rest, split, size, found, _⟩ := closedCall_iff.mp closed
    obtain ⟨_, _, _, after, rfl⟩ := callHead?_iff.mp found
    have stands : text.toList = before ++ call.name.toList ++
        '(' :: (call.arguments.toList ++ ')' :: after) := by
      simp [split]
    rw [← call.arguments.ofList_toList] at inside
    simpa [size] using mem_calls_of_opened stands inside
  case opened =>
    intro front rest split call member
    exact @mem_calls_of_opened text front rest [] (by simpa using split) call member

end Source

end KarelLint
