import KarelLint.Proofs.Source.ClosedCalls

/-! The spans of calls, from their names to the parentheses that close them. What is opened inside
balanced text is closed inside it, so of two spans one lies in the arguments of the other or behind
it, and inside the arguments of a call the calls are those of the arguments alone. -/

set_option autoImplicit false

namespace KarelLint

namespace Text

/-- A word starts at an identifier if no word ends before it. -/
theorem wordBoundary_identifier {name : List Char} (identifier : IsIdentifier name)
    (before : Option Char) (rest : List Char) :
    wordBoundary before (name ++ rest).head? = !before.any isWord := by
  obtain ⟨first, tail, rfl, part⟩ := identifier.exists_cons
  rw [wordBoundary, List.cons_append, List.head?_cons, Option.any_some,
    isWord_of_isIdentifierPart part, Bool.bne_true]

end Text

namespace Source

open Text

/-! ## Parentheses inside balanced text -/

theorem level?_add {depth final : Nat} {text : List Char} (more : Nat)
    (reached : level? depth text = some final) :
    level? (depth + more) text = some (final + more) := by
  rw [level?_eq_some_iff] at reached ⊢
  obtain ⟨nested, even⟩ := reached
  refine ⟨?_, by omega⟩
  intro before initial
  have enough := nested before initial
  omega

theorem Balanced.exists_level {front inner : List Char} (balanced : Balanced (front ++ inner)) :
    ∃ depth, level? 0 front = some depth ∧ level? depth inner = some 0 := by
  have closed := balanced_iff_level?.mp balanced
  rw [level?_append] at closed
  exact Option.bind_eq_some_iff.mp closed

/-- A balanced text that starts inside another one, before a parenthesis that closes neither, ends
there too. -/
theorem Balanced.exists_rest {front inner after part rest : List Char}
    (balanced : Balanced (front ++ inner)) (closed : Balanced part)
    (same : inner ++ ')' :: after = part ++ rest) : ∃ back, inner = part ++ back := by
  rcases List.append_eq_append_iff.mp same with ⟨between, split, tail⟩ | ⟨back, split, _⟩
  · cases between with
    | nil => exact ⟨[], by simpa using split.symm⟩
    | cons c between =>
        -- The part would close a parenthesis that was opened before it.
        obtain ⟨rfl, _⟩ := List.cons.inj tail
        obtain ⟨depth, _, ends⟩ := balanced.exists_level
        rw [split] at closed
        obtain ⟨opened, starts, closes⟩ := closed.exists_level
        have shifted := level?_add depth starts
        rw [Nat.zero_add, ends] at shifted
        have none : opened = 0 := by
          have total := Option.some.inj shifted
          omega
        rw [none, level?_close_zero] at closes
        cases closes
  · exact ⟨back, split⟩

/-- If less is open after a text than before it, then the text closes a parenthesis that was open
before it. -/
theorem isSome_enclosed? {depth more final : Nat} {text : List Char}
    (reached : level? (depth + 1 + more) text = some final) (closed : final ≤ more) :
    (enclosed? depth text).isSome = true := by
  induction text generalizing depth with
  | nil =>
      cases reached
      omega
  | cons c rest ih =>
      by_cases opens : c = '('
      · subst opens
        have deeper : depth + 1 + more + 1 = depth + 1 + 1 + more := by omega
        rw [level?_open, deeper] at reached
        simpa [enclosed?] using ih reached
      · by_cases closes : c = ')'
        · subst closes
          cases depth with
          | zero => rfl
          | succ depth =>
              have outer : depth + 1 + 1 + more = depth + 1 + more + 1 := by omega
              rw [outer, level?_close_succ] at reached
              simpa [enclosed?] using ih reached
        · rw [level?_other opens closes] at reached
          rw [enclosed?_other opens closes, Option.isSome_map]
          exact ih reached

theorem Balanced.exists_enclosed {front inner : List Char}
    (balanced : Balanced (front ++ '(' :: inner)) :
    ∃ arguments after, inner = arguments ++ ')' :: after ∧ Balanced arguments := by
  obtain ⟨depth, _, ends⟩ := balanced.exists_level
  have opened : 0 + 1 + depth = depth + 1 := by omega
  rw [level?_open, ← opened] at ends
  obtain ⟨arguments, found⟩ := Option.isSome_iff_exists.mp
    (isSome_enclosed? ends (Nat.zero_le depth))
  obtain ⟨closed, after, split⟩ := enclosed?_eq_some_iff.mp found
  exact ⟨arguments, after, split, balanced_iff_level?.mpr closed⟩

/-! ## Spans -/

namespace Call

/-- A call as it stands in a text. -/
def written (call : Call) : List Char :=
  call.name.toList ++ '(' :: (call.arguments.toList ++ [')'])

/-- The offset at which the arguments of a call start. -/
def argumentsOffset (call : Call) : Nat :=
  call.offset + byteLength (call.name.toList ++ ['('])

/-- The offset of the parenthesis that closes a call. -/
def close (call : Call) : Nat :=
  closeOffset call.offset call.name.toList call.arguments.toList

/-- A call of a text that itself starts at an offset. -/
def shifted (call : Call) (start : Nat) : Call :=
  { call with offset := start + call.offset }

theorem close_eq (call : Call) :
    call.close = call.argumentsOffset + byteLength call.arguments.toList := rfl

theorem offset_lt_argumentsOffset (call : Call) : call.offset < call.argumentsOffset := by
  have width : '('.utf8Size = 1 := by decide
  simp only [argumentsOffset, byteLength_append, byteLength_cons, byteLength_nil, width]
  omega

theorem byteLength_written (call : Call) :
    call.offset + byteLength call.written = call.close + 1 := by
  have width : ')'.utf8Size = 1 := by decide
  simp only [written, close, closeOffset, byteLength_append, byteLength_cons, byteLength_nil, width]
  omega

theorem balanced_written {call : Call} (identifier : IsIdentifier call.name.toList)
    (balanced : Balanced call.arguments.toList) : Balanced call.written := by
  have closed := level?_add 1 (balanced_iff_level?.mp balanced)
  apply balanced_iff_level?.mpr
  rw [written, level?_append_of_plain (plain_of_parts identifier.parts), level?_open,
    level?_append, closed]
  rfl

end Call

/-- The text before and after a call. -/
structure CallBetween (text : List Char) (call : Call) (before after : List Char) : Prop where
  split : text = before ++ (call.written ++ after)
  offset : call.offset = byteLength before
  starts : before.getLast?.any isWord = false
  identifier : IsIdentifier call.name.toList
  balanced : Balanced call.arguments.toList

theorem mem_calls_iff_between {text : String} {call : Call} :
    call ∈ calls text ↔ ∃ before after, CallBetween text.toList call before after := by
  rw [calls, mem_callsFrom_iff]
  constructor
  · rintro ⟨before, rest, name, arguments, split, found, same⟩
    obtain ⟨boundary, identifier, balanced, after, rfl⟩ := callHead?_iff.mp found
    rw [Option.or_none, wordBoundary_identifier identifier] at boundary
    subst same
    exact ⟨before, after, by simp [split, Call.written], by simp, by simpa using boundary,
      by simpa using identifier, by simpa using balanced⟩
  · rintro ⟨before, after, between⟩
    refine ⟨before, call.written ++ after, call.name.toList, call.arguments.toList, between.split,
      callHead?_iff.mpr ⟨?_, between.identifier, between.balanced, after, by simp [Call.written]⟩,
      ?_⟩
    · rw [Option.or_none, Call.written, List.append_assoc, wordBoundary_identifier between.identifier,
        between.starts]
      rfl
    · rw [String.ofList_toList, String.ofList_toList, Nat.zero_add, ← between.offset]

/-- A call that stands as a whole between the parentheses of another one. -/
structure Encloses (outer inner : Call) : Prop where
  starts : outer.argumentsOffset ≤ inner.offset
  ends : inner.close < outer.close
  stands : StandsAt outer.argumentsOffset outer.arguments.toList inner.offset inner.written

namespace CallBetween

variable {text before after before' after' : List Char} {outer inner call : Call}

theorem ne_cons (between : CallBetween text call before after) {c : Char} {tail : List Char}
    (mark : isIdentifierPart c = false) : c :: tail ≠ call.written ++ after := by
  intro same
  obtain ⟨first, rest, named, part⟩ := between.identifier.exists_cons
  rw [Call.written, named] at same
  cases same
  rw [part] at mark
  cases mark

/-- A later call starts after the opening parenthesis of an earlier one, since no word starts inside
a name. -/
theorem exists_front (outside : CallBetween text outer before after)
    (inside : CallBetween text inner before' after') (later : outer.offset < inner.offset) :
    ∃ front, before' = before ++ (outer.name.toList ++ '(' :: front) ∧
      outer.arguments.toList ++ ')' :: after = front ++ (inner.written ++ after') := by
  rw [outside.offset, inside.offset] at later
  obtain ⟨middle, rfl, whole⟩ := exists_between_cuts (outside.split.symm.trans inside.split)
    (Nat.le_of_lt later)
  have present : middle ≠ [] := by
    rintro rfl
    simp at later
  have written : outer.written ++ after =
      outer.name.toList ++ '(' :: (outer.arguments.toList ++ ')' :: after) := by
    simp [Call.written]
  rw [written] at whole
  rcases List.append_eq_append_iff.mp whole with ⟨rest, rfl, tail⟩ | ⟨rest, named, _⟩
  · cases rest with
    | nil => exact absurd (by simpa using tail) (inside.ne_cons (by decide))
    | cons c front =>
        obtain ⟨rfl, remaining⟩ := List.cons.inj tail
        exact ⟨front, rfl, remaining⟩
  · obtain ⟨first, last, rfl⟩ := List.eq_nil_or_concat middle |>.resolve_left present
    have part : isIdentifierPart last = true := by
      apply outside.identifier.parts
      simp [named]
    have clear := inside.starts
    simp [← List.append_assoc, isWord_of_isIdentifierPart part] at clear

/-- Of two calls the later one stands in the arguments of the earlier one or behind it. -/
theorem nested_or_apart (outside : CallBetween text outer before after)
    (inside : CallBetween text inner before' after') (later : outer.offset < inner.offset) :
    (∃ gap, before' = before ++ (outer.written ++ gap)) ∨
      ∃ front back, before' = before ++ (outer.name.toList ++ '(' :: front) ∧
        outer.arguments.toList = front ++ (inner.written ++ back) := by
  obtain ⟨front, split, whole⟩ := outside.exists_front inside later
  rcases List.append_eq_append_iff.mp whole with ⟨rest, rfl, tail⟩ | ⟨rest, arguments, tail⟩
  · left
    cases rest with
    | nil => exact absurd (by simpa using tail) (inside.ne_cons (by decide))
    | cons c gap =>
        obtain ⟨rfl, _⟩ := List.cons.inj tail
        exact ⟨gap, by simp [split, Call.written]⟩
  · right
    have balanced := outside.balanced
    rw [arguments] at balanced
    obtain ⟨back, rfl⟩ := balanced.exists_rest
      (Call.balanced_written inside.identifier inside.balanced) tail.symm
    exact ⟨front, back, split, arguments⟩

theorem of_arguments {front back : List Char} (outside : CallBetween text outer before after)
    (inside : CallBetween text inner before' after')
    (split : before' = before ++ (outer.name.toList ++ '(' :: front))
    (arguments : outer.arguments.toList = front ++ (inner.written ++ back)) :
    inner.offset = outer.argumentsOffset + byteLength front ∧
      CallBetween outer.arguments.toList { inner with offset := byteLength front } front back := by
  refine ⟨?_, arguments, rfl, ?_, inside.identifier, inside.balanced⟩
  · simp [inside.offset, split, Call.argumentsOffset, outside.offset, Nat.add_assoc]
  · have starts := inside.starts
    rwa [split, ← List.append_assoc, getLast?_any_isWord_open] at starts

theorem encloses (outside : CallBetween text outer before after)
    (inside : CallBetween text inner before' after') {front back : List Char}
    (split : before' = before ++ (outer.name.toList ++ '(' :: front))
    (arguments : outer.arguments.toList = front ++ (inner.written ++ back)) :
    Encloses outer inner := by
  obtain ⟨offset, _⟩ := outside.of_arguments inside split arguments
  have span := inner.byteLength_written
  refine ⟨by omega, ?_, front, back, arguments, offset⟩
  rw [outer.close_eq, arguments, byteLength_append, byteLength_append]
  omega

theorem offset_lt (between : CallBetween text call before after) :
    call.offset < byteLength text := by
  have span := call.byteLength_written
  have further := call.offset_lt_argumentsOffset
  have closes := call.close_eq
  rw [between.split, byteLength_append, byteLength_append, ← between.offset]
  omega

end CallBetween

/-! ## The calls in the arguments of a call -/

/-- The calls of the arguments of a call are the calls of the text that start there. -/
theorem mem_calls_arguments_iff {text : String} {outer inner : Call} (member : outer ∈ calls text) :
    inner ∈ calls outer.arguments ↔
      inner.shifted outer.argumentsOffset ∈ calls text ∧
        outer.argumentsOffset + inner.offset < outer.close := by
  obtain ⟨before, after, outside⟩ := mem_calls_iff_between.mp member
  have opened : text.toList = before ++ outer.name.toList ++
      '(' :: (outer.arguments.toList ++ ')' :: after) := by
    simp [outside.split, Call.written]
  have width : '('.utf8Size = 1 := by decide
  have start : outer.argumentsOffset = byteLength (before ++ outer.name.toList) + 1 := by
    simp [Call.argumentsOffset, outside.offset, width, Nat.add_assoc]
  constructor
  · intro inside
    constructor
    · rw [Call.shifted, start]
      apply mem_calls_of_opened opened
      rwa [String.ofList_toList]
    · obtain ⟨_, _, between⟩ := mem_calls_iff_between.mp inside
      have within := between.offset_lt
      rw [outer.close_eq]
      omega
  · intro ⟨shifted, within⟩
    obtain ⟨before', after', inside⟩ := mem_calls_iff_between.mp shifted
    have starts := outer.offset_lt_argumentsOffset
    have later : outer.offset < (inner.shifted outer.argumentsOffset).offset :=
      Nat.lt_of_lt_of_le starts (Nat.le_add_right _ _)
    rcases outside.nested_or_apart inside later with ⟨gap, split⟩ | ⟨front, back, split, arguments⟩
    · have place := inside.offset
      have span := outer.byteLength_written
      rw [split, byteLength_append, byteLength_append, ← outside.offset] at place
      simp only [Call.shifted] at place
      omega
    · obtain ⟨place, between⟩ := outside.of_arguments inside split arguments
      have same : byteLength front = inner.offset := by
        simp only [Call.shifted] at place
        omega
      rw [same] at between
      exact mem_calls_iff_between.mpr ⟨front, back, between⟩

theorem calls_ascending (text : String) :
    (calls text).Pairwise fun earlier later => earlier.offset < later.offset :=
  List.pairwise_map.mp ((visibleFrom_ascending 0 text.toList).sublist
    (callsFrom_sublist none 0 text.toList))

theorem filter_calls_arguments {text : String} {outer : Call} (member : outer ∈ calls text) :
    (calls text).filter (fun call =>
        outer.argumentsOffset ≤ call.offset ∧ call.offset < outer.close) =
      (calls outer.arguments).map (·.shifted outer.argumentsOffset) := by
  apply eq_of_ascending ((calls_ascending text).filter _)
  · apply List.pairwise_map.mpr
    exact (calls_ascending outer.arguments).imp fun before => Nat.add_lt_add_left before _
  · intro call
    rw [List.mem_filter, List.mem_map, decide_eq_true_iff]
    constructor
    · intro ⟨found, starts, ends⟩
      let inner : Call := { call with offset := call.offset - outer.argumentsOffset }
      have same : inner.shifted outer.argumentsOffset = call := by
        simp [inner, Call.shifted, Nat.add_sub_cancel' starts]
      refine ⟨inner, (mem_calls_arguments_iff member).mpr ⟨same ▸ found, ?_⟩, same⟩
      simp only [inner]
      omega
    · intro ⟨inner, inside, same⟩
      obtain ⟨found, ends⟩ := (mem_calls_arguments_iff member).mp inside
      subst same
      exact ⟨found, Nat.le_add_right _ _, ends⟩

/-- The opening of a call, which need not be closed: an identifier at a word boundary, with a
parenthesis directly after it. -/
structure CallOpening (text : List Char) (offset : Nat) (name : List Char) : Prop where
  boundary : ∃ before after, text = before ++ after ∧ offset = byteLength before ∧
    wordBoundary before.getLast? after.head? = true
  identifier : IsIdentifier name
  opens : StandsAt 0 text offset (name ++ ['('])

theorem CallOpening.exists_before {text name : List Char} {offset : Nat}
    (opening : CallOpening text offset name) :
    ∃ before inner, text = before ++ (name ++ '(' :: inner) ∧ offset = byteLength before ∧
      before.getLast?.any isWord = false := by
  obtain ⟨before, rest, rfl, rfl, boundary⟩ := opening.boundary
  obtain ⟨before', inner, split, size⟩ := opening.opens
  obtain ⟨rfl, rfl⟩ := append_inj_of_byteLength split (by simpa using size)
  rw [List.append_assoc, wordBoundary_identifier opening.identifier] at boundary
  exact ⟨before, inner, by simp, rfl, by simpa using boundary⟩

/-- What opens a call inside the arguments of another one is a call of these arguments. -/
theorem exists_call_of_opening {text : String} {outer : Call} {offset : Nat} {name : List Char}
    (member : outer ∈ calls text) (opening : CallOpening text.toList offset name)
    (starts : outer.argumentsOffset ≤ offset)
    (ends : offset + byteLength (name ++ ['(']) ≤ outer.close) :
    ∃ inner ∈ calls outer.arguments, inner.name.toList = name ∧
      outer.argumentsOffset + inner.offset = offset := by
  obtain ⟨before, after, outside⟩ := mem_calls_iff_between.mp member
  obtain ⟨before', inner, split, rfl, clear⟩ := opening.exists_before
  -- The two cuts of the text around the opening lie in the arguments.
  have whole : before ++ (outer.name.toList ++ ['(']) ++
      (outer.arguments.toList ++ ')' :: after) = before' ++ (name ++ '(' :: inner) := by
    rw [← split, outside.split]
    simp [Call.written]
  have start : byteLength (before ++ (outer.name.toList ++ ['('])) = outer.argumentsOffset := by
    rw [byteLength_append, ← outside.offset]
    rfl
  obtain ⟨front, rfl, tail⟩ := exists_between_cuts whole (by rw [start]; exact starts)
  have place := byteLength_append (before ++ (outer.name.toList ++ ['('])) front
  rw [start] at place
  have size : byteLength (front ++ (name ++ ['('])) ≤ byteLength outer.arguments.toList := by
    rw [outer.close_eq] at ends
    rw [byteLength_append]
    omega
  have around : front ++ (name ++ ['(']) ++ inner = outer.arguments.toList ++ ')' :: after := by
    simp [tail]
  obtain ⟨rest, arguments, _⟩ := exists_between_cuts around size
  have balanced := outside.balanced
  have opened : outer.arguments.toList = front ++ name ++ '(' :: rest := by simp [arguments]
  rw [opened] at balanced
  obtain ⟨between, back, rfl, closed⟩ := balanced.exists_enclosed
  refine ⟨⟨String.ofList name, byteLength front, String.ofList between⟩,
    mem_calls_iff_between.mpr ⟨front, back, ?_⟩, String.toList_ofList, place.symm⟩
  constructor
  case split => simp [opened, Call.written]
  case offset => rfl
  case starts =>
    have grouped : before ++ (outer.name.toList ++ ['(']) ++ front =
        before ++ outer.name.toList ++ '(' :: front := by
      simp
    rwa [grouped, getLast?_any_isWord_open] at clear
  case identifier => simpa using opening.identifier
  case balanced => simpa using closed

theorem closedCall_of_mem_calls {text : String} {call : Call} (member : call ∈ calls text) :
    ClosedCall text.toList call.offset call.name.toList call.arguments.toList call.close := by
  obtain ⟨close, closed⟩ := mem_calls_iff_closedCall.mp member
  obtain ⟨_, _, _, _, _, rfl⟩ := closedCall_iff.mp closed
  exact closed

/-- Calls are properly nested. A later call stands behind the parenthesis that closes an earlier one,
or as a whole in its arguments. The calls in the arguments of a call are those of the arguments
alone, and whatever opens a call there is one of them. -/
theorem call_spans_nested (text : String) :
    (∀ call ∈ calls text,
      ClosedCall text.toList call.offset call.name.toList call.arguments.toList call.close) ∧
    (∀ first ∈ calls text, ∀ second ∈ calls text, first.offset < second.offset →
      first.close < second.offset ∨ Encloses first second) ∧
    (∀ outer ∈ calls text,
      (calls text).filter (fun call =>
          outer.argumentsOffset ≤ call.offset ∧ call.offset < outer.close) =
        (calls outer.arguments).map (·.shifted outer.argumentsOffset)) ∧
    ∀ outer ∈ calls text, ∀ offset name, CallOpening text.toList offset name →
      outer.argumentsOffset ≤ offset → offset + byteLength (name ++ ['(']) ≤ outer.close →
      ∃ inner ∈ calls outer.arguments, inner.name.toList = name ∧
        outer.argumentsOffset + inner.offset = offset ∧
        inner.shifted outer.argumentsOffset ∈ calls text := by
  refine ⟨fun _ => closedCall_of_mem_calls, ?spans, fun _ => filter_calls_arguments, ?openings⟩
  case spans =>
    intro first member second member' later
    obtain ⟨_, _, outside⟩ := mem_calls_iff_between.mp member
    obtain ⟨_, _, inside⟩ := mem_calls_iff_between.mp member'
    rcases outside.nested_or_apart inside later with ⟨gap, split⟩ | ⟨front, back, split, arguments⟩
    · left
      have span := first.byteLength_written
      rw [inside.offset, split, byteLength_append, byteLength_append, ← outside.offset]
      omega
    · right
      exact outside.encloses inside split arguments
  case openings =>
    intro outer member offset name opening starts ends
    obtain ⟨inner, inside, named, place⟩ := exists_call_of_opening member opening starts ends
    exact ⟨inner, inside, named, place, ((mem_calls_arguments_iff member).mp inside).1⟩

/-- Calls in the arguments of calls, and a call after a parenthesis that nothing closes. -/
def nestedCalls : String :=
  "if(climb(succ(n)) turn() ) loop( go(x)"

theorem call_spans_nested_nestedCalls :
    (calls nestedCalls).map (fun call => (call.name, call.offset, call.argumentsOffset, call.close)) =
      [("if", 0, 3, 25), ("climb", 3, 9, 16), ("succ", 9, 14, 15), ("turn", 18, 23, 23),
        ("go", 33, 36, 37)] ∧
    (∀ first ∈ calls nestedCalls, ∀ second ∈ calls nestedCalls, first.offset < second.offset →
      first.close < second.offset ∨ Encloses first second) ∧
    ∀ outer ∈ calls nestedCalls,
      (calls nestedCalls).filter (fun call =>
          outer.argumentsOffset ≤ call.offset ∧ call.offset < outer.close) =
        (calls outer.arguments).map (·.shifted outer.argumentsOffset) := by
  have nested := call_spans_nested nestedCalls
  exact ⟨by decide, nested.2.1, nested.2.2.1⟩

end Source

end KarelLint
