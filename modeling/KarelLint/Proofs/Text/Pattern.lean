import KarelLint.Text.Offset
import KarelLint.Text.Word

/-! Patterns of characters. A pattern can match the start of a text in several ways, which are
ordered: a choice prefers its first branch and a repetition prefers more characters. A search takes
the first place of a text at which there is a way, the preferred way there, and goes on where that
match ends. Repetition is of single characters, which is all that is needed here. -/

set_option autoImplicit false

namespace KarelLint.Text

/-- A part of a text that a group of a pattern matched. -/
structure Capture where
  offset : Nat
  written : List Char
  deriving DecidableEq, Repr

/-- A place in a text, after the character `before`, and what groups matched on the way to it. -/
structure Cursor where
  before : Option Char
  offset : Nat
  rest : List Char
  captures : List (Nat × Capture)
  deriving DecidableEq, Repr

namespace Cursor

/-- The start of a text. -/
def start (text : List Char) : Cursor :=
  ⟨none, 0, text, []⟩

/-- The place after some characters, where a rest of the text follows. -/
def passed (cursor : Cursor) (front rest : List Char) : Cursor :=
  { cursor with
    before := front.getLast?.or cursor.before
    offset := cursor.offset + byteLength front
    rest }

/-- The same place, with what further groups matched. -/
def noting (cursor : Cursor) (captures : List (Nat × Capture)) : Cursor :=
  { cursor with captures := captures ++ cursor.captures }

/-- The same place, after a group that started at another. -/
def record (cursor : Cursor) (number : Nat) (start : Cursor) : Cursor :=
  cursor.noting
    [(number, ⟨start.offset, start.rest.take (start.rest.length - cursor.rest.length)⟩)]

theorem passed_nil {cursor : Cursor} {rest : List Char} (follows : cursor.rest = rest) :
    cursor.passed [] rest = cursor := by
  cases follows
  simp [passed]

theorem passed_passed (cursor : Cursor) (first second middle rest : List Char) :
    (cursor.passed first middle).passed second rest = cursor.passed (first ++ second) rest := by
  simp [passed, List.getLast?_append, Option.or_assoc, Nat.add_assoc]

theorem noting_nil (cursor : Cursor) : cursor.noting [] = cursor :=
  rfl

theorem noting_noting (cursor : Cursor) (first second : List (Nat × Capture)) :
    (cursor.noting first).noting second = cursor.noting (second ++ first) := by
  simp [noting]

theorem passed_noting (cursor : Cursor) (captures : List (Nat × Capture))
    (front rest : List Char) :
    (cursor.noting captures).passed front rest = (cursor.passed front rest).noting captures :=
  rfl

theorem record_eq {start cursor : Cursor} {front : List Char}
    (follows : start.rest = front ++ cursor.rest) (number : Nat) :
    cursor.record number start = cursor.noting [(number, ⟨start.offset, front⟩)] := by
  simp [record, follows]

end Cursor

inductive Pattern where
  | empty
  /-- A place where a word starts or ends. -/
  | boundary
  /-- A character of a kind. -/
  | one (kind : Char → Bool)
  /-- Any number of characters of a kind. -/
  | many (kind : Char → Bool)
  | sequence (first second : Pattern)
  | either (first second : Pattern)
  /-- A pattern whose match is recorded under a number. -/
  | group (number : Nat) (inner : Pattern)

/-- The runs of a kind at the start of a text with what follows each, the longest one first. -/
def runs (kind : Char → Bool) : List Char → List (List Char × List Char)
  | [] => [([], [])]
  | c :: rest =>
      if kind c then
        ((runs kind rest).map fun (run, after) => (c :: run, after)) ++ [([], c :: rest)]
      else [([], c :: rest)]

theorem runs_nil (kind : Char → Bool) : runs kind [] = [([], [])] :=
  rfl

theorem runs_of_true {kind : Char → Bool} {c : Char} (holds : kind c = true) (rest : List Char) :
    runs kind (c :: rest) =
      ((runs kind rest).map fun (run, after) => (c :: run, after)) ++ [([], c :: rest)] :=
  if_pos holds

theorem runs_of_false {kind : Char → Bool} {c : Char} (fails : kind c = false)
    (rest : List Char) : runs kind (c :: rest) = [([], c :: rest)] :=
  if_neg (Bool.eq_false_iff.mp fails)

namespace Pattern

/-- The places that a pattern can reach from a place, in the order of preference. -/
def ways : Pattern → Cursor → List Cursor
  | empty, cursor => [cursor]
  | boundary, cursor => if wordBoundary cursor.before cursor.rest.head? then [cursor] else []
  | one kind, cursor =>
      match cursor.rest with
      | [] => []
      | c :: rest => if kind c then [cursor.passed [c] rest] else []
  | many kind, cursor =>
      (runs kind cursor.rest).map fun (run, after) => cursor.passed run after
  | sequence first second, cursor => (first.ways cursor).flatMap second.ways
  | either first second, cursor => first.ways cursor ++ second.ways cursor
  | group number inner, cursor => (inner.ways cursor).map (·.record number cursor)

section Equations

variable {cursor : Cursor} {kind : Char → Bool}

theorem ways_boundary (cursor : Cursor) :
    boundary.ways cursor =
      if wordBoundary cursor.before cursor.rest.head? then [cursor] else [] :=
  rfl

theorem ways_one_of_nil (follows : cursor.rest = []) : (one kind).ways cursor = [] := by
  cases cursor
  cases follows
  rfl

theorem ways_one_of_cons {c : Char} {rest : List Char} (follows : cursor.rest = c :: rest) :
    (one kind).ways cursor = if kind c then [cursor.passed [c] rest] else [] := by
  cases cursor
  cases follows
  rfl

theorem ways_many (kind : Char → Bool) (cursor : Cursor) :
    (many kind).ways cursor =
      (runs kind cursor.rest).map fun (run, after) => cursor.passed run after :=
  rfl

theorem ways_sequence (first second : Pattern) (cursor : Cursor) :
    (sequence first second).ways cursor = (first.ways cursor).flatMap second.ways :=
  rfl

theorem ways_either (first second : Pattern) (cursor : Cursor) :
    (either first second).ways cursor = first.ways cursor ++ second.ways cursor :=
  rfl

theorem ways_group (number : Nat) (inner : Pattern) (cursor : Cursor) :
    (group number inner).ways cursor = (inner.ways cursor).map (·.record number cursor) :=
  rfl

end Equations

/-- The place that the preferred way reaches, if it takes at least one character. -/
def match? (pattern : Pattern) (cursor : Cursor) : Option Cursor :=
  (pattern.ways cursor).head?.filter fun stop => stop.rest.length < cursor.rest.length

/-- Some text. -/
def word (text : List Char) : Pattern :=
  text.foldr (fun c later => sequence (one (· == c)) later) empty

/-- One of some patterns, the first ones preferred. -/
def anyOf (patterns : List Pattern) : Pattern :=
  patterns.foldr either (one fun _ => false)

/-- A pattern or nothing. -/
def optional (pattern : Pattern) : Pattern :=
  either pattern empty

end Pattern

/-- A match: the offset at which it starts and the place where it ends. -/
structure Match where
  start : Nat
  stop : Cursor
  deriving DecidableEq, Repr

/-- What a group of the pattern matched. -/
def Match.capture? (found : Match) (number : Nat) : Option Capture :=
  found.stop.captures.lookup number

theorem Pattern.length_lt_of_match? {pattern : Pattern} {cursor stop : Cursor}
    (found : pattern.match? cursor = some stop) : stop.rest.length < cursor.rest.length := by
  simpa using (Option.filter_eq_some_iff.mp found).2

/-- The matches of a pattern from a place on. -/
def Pattern.matchesFrom (pattern : Pattern) (cursor : Cursor) : List Match :=
  match found : pattern.match? cursor with
  | some stop =>
      have shorter := length_lt_of_match? found
      ⟨cursor.offset, stop⟩ :: pattern.matchesFrom { stop with captures := [] }
  | none =>
      match follows : cursor.rest with
      | [] => []
      | c :: rest =>
          have shorter : rest.length < cursor.rest.length := by simp [follows]
          pattern.matchesFrom (cursor.passed [c] rest)
termination_by cursor.rest.length

namespace Pattern

theorem matchesFrom_of_match? {pattern : Pattern} {cursor stop : Cursor}
    (found : pattern.match? cursor = some stop) :
    pattern.matchesFrom cursor =
      ⟨cursor.offset, stop⟩ :: pattern.matchesFrom { stop with captures := [] } := by
  rw [matchesFrom]
  split
  · next found' =>
      rw [found] at found'
      cases found'
      rfl
  · next none =>
      rw [found] at none
      cases none

theorem matchesFrom_of_none {pattern : Pattern} {cursor : Cursor}
    (nothing : pattern.match? cursor = none) :
    pattern.matchesFrom cursor =
      match cursor.rest with
      | [] => []
      | c :: rest => pattern.matchesFrom (cursor.passed [c] rest) := by
  rw [matchesFrom]
  split
  · next found =>
      rw [nothing] at found
      cases found
  · split
    · next empty => simp only [empty]
    · next follows => simp only [follows]

/-! ## The preferred way -/

/-- The preferred way of a pattern leads from one place to another. -/
def Prefers (pattern : Pattern) (cursor stop : Cursor) : Prop :=
  (pattern.ways cursor).head? = some stop

theorem Prefers.match? {pattern : Pattern} {cursor stop : Cursor}
    (preferred : pattern.Prefers cursor stop)
    (shorter : stop.rest.length < cursor.rest.length) : pattern.match? cursor = some stop := by
  rw [Pattern.match?, preferred, Option.filter_some, if_pos (decide_eq_true shorter)]

section Prefers

variable {first second : Pattern} {cursor middle stop : Cursor} {kind : Char → Bool}

theorem prefers_empty (cursor : Cursor) : empty.Prefers cursor cursor :=
  rfl

theorem prefers_boundary (edge : wordBoundary cursor.before cursor.rest.head? = true) :
    boundary.Prefers cursor cursor := by
  rw [Prefers, ways_boundary, if_pos edge]
  rfl

theorem prefers_one {c : Char} {rest : List Char} (follows : cursor.rest = c :: rest)
    (holds : kind c = true) : (one kind).Prefers cursor (cursor.passed [c] rest) := by
  rw [Prefers, ways_one_of_cons follows, if_pos holds]
  rfl

theorem prefers_many {run rest : List Char} (follows : cursor.rest = run ++ rest)
    (all : ∀ c ∈ run, kind c = true) (stops : ∀ c ∈ rest.head?, kind c = false) :
    (many kind).Prefers cursor (cursor.passed run rest) := by
  have longest : (runs kind (run ++ rest)).head? = some (run, rest) := by
    clear follows
    induction run with
    | nil =>
        cases rest with
        | nil => rfl
        | cons c rest =>
            rw [List.nil_append, runs_of_false (stops c rfl)]
            rfl
    | cons c run ih =>
        have later := ih fun d member => all d (List.mem_cons_of_mem _ member)
        simp [runs_of_true (all c List.mem_cons_self), later]
  rw [Prefers, ways_many, follows, List.head?_map, longest]
  rfl

/-- The preferred way of a sequence goes along those of its parts, if there is a way for the
second part from where the first one prefers to end. -/
theorem Prefers.sequence (before : first.Prefers cursor middle)
    (after : second.Prefers middle stop) : (sequence first second).Prefers cursor stop := by
  obtain ⟨others, split⟩ := List.head?_eq_some_iff.mp before
  rw [Prefers, ways_sequence, split, List.flatMap_cons, List.head?_append, after]
  rfl

theorem Prefers.group (number : Nat) (inner : first.Prefers cursor stop) :
    (group number first).Prefers cursor (stop.record number cursor) := by
  rw [Prefers, ways_group, List.head?_map, inner]
  rfl

theorem Prefers.left (second : Pattern) (preferred : first.Prefers cursor stop) :
    (either first second).Prefers cursor stop := by
  rw [Prefers, ways_either, List.head?_append, preferred]
  rfl

theorem Prefers.right (blocked : first.ways cursor = [])
    (preferred : second.Prefers cursor stop) : (either first second).Prefers cursor stop := by
  rw [Prefers, ways_either, blocked]
  exact preferred

theorem prefers_word {text rest : List Char} (follows : cursor.rest = text ++ rest) :
    (word text).Prefers cursor (cursor.passed text rest) := by
  induction text generalizing cursor with
  | nil =>
      have here : cursor.passed [] rest = cursor := Cursor.passed_nil follows
      rw [here]
      exact prefers_empty cursor
  | cons c text ih =>
      have later := @ih (cursor.passed [c] (text ++ rest)) rfl
      rw [Cursor.passed_passed] at later
      have taken : (one (· == c)).Prefers cursor (cursor.passed [c] (text ++ rest)) :=
        prefers_one follows (beq_self_eq_true c)
      exact taken.sequence later

end Prefers

/-! ## What a way takes -/

section Ways

variable {cursor stop : Cursor}

theorem mem_ways_one {kind : Char → Bool} (reached : stop ∈ (one kind).ways cursor) :
    ∃ c rest, cursor.rest = c :: rest ∧ kind c = true ∧ stop = cursor.passed [c] rest := by
  cases follows : cursor.rest with
  | nil =>
      rw [ways_one_of_nil follows] at reached
      cases reached
  | cons c rest =>
      rw [ways_one_of_cons follows] at reached
      cases holds : kind c with
      | false => simp [holds] at reached
      | true => exact ⟨c, rest, rfl, holds, by simpa [holds] using reached⟩

theorem mem_runs {kind : Char → Bool} {text run rest : List Char}
    (member : (run, rest) ∈ runs kind text) : text = run ++ rest ∧ ∀ c ∈ run, kind c = true := by
  induction text generalizing run with
  | nil =>
      obtain ⟨rfl, rfl⟩ : run = [] ∧ rest = [] := by simpa [runs_nil] using member
      exact ⟨rfl, by simp⟩
  | cons c text ih =>
      cases holds : kind c with
      | false =>
          obtain ⟨rfl, rfl⟩ : run = [] ∧ rest = c :: text := by
            simpa [runs_of_false holds] using member
          exact ⟨rfl, by simp⟩
      | true =>
          simp only [runs_of_true holds, List.mem_append, List.mem_map, List.mem_singleton,
            Prod.mk.injEq] at member
          rcases member with ⟨⟨shorter, after⟩, inner, rfl, rfl⟩ | ⟨rfl, rfl⟩
          · obtain ⟨split, all⟩ := ih inner
            exact ⟨by simp [split], List.forall_mem_cons.mpr ⟨holds, all⟩⟩
          · exact ⟨rfl, by simp⟩

theorem mem_ways_many {kind : Char → Bool} (reached : stop ∈ (many kind).ways cursor) :
    ∃ run rest, cursor.rest = run ++ rest ∧ (∀ c ∈ run, kind c = true) ∧
      stop = cursor.passed run rest := by
  obtain ⟨⟨run, rest⟩, member, rfl⟩ := List.mem_map.mp reached
  obtain ⟨follows, all⟩ := mem_runs member
  exact ⟨run, rest, follows, all, rfl⟩

theorem mem_ways_sequence {first second : Pattern} :
    stop ∈ (sequence first second).ways cursor ↔
      ∃ middle ∈ first.ways cursor, stop ∈ second.ways middle :=
  List.mem_flatMap

theorem mem_ways_group {number : Nat} {inner : Pattern}
    (reached : stop ∈ (group number inner).ways cursor) :
    ∃ middle ∈ inner.ways cursor, stop = middle.record number cursor := by
  obtain ⟨middle, member, rfl⟩ := List.mem_map.mp reached
  exact ⟨middle, member, rfl⟩

theorem mem_ways_optional {inner : Pattern} (reached : stop ∈ (optional inner).ways cursor) :
    stop ∈ inner.ways cursor ∨ stop = cursor := by
  rcases List.mem_append.mp reached with taken | nothing
  · exact .inl taken
  · exact .inr (List.mem_singleton.mp nothing)

theorem mem_ways_anyOf {patterns : List Pattern} (reached : stop ∈ (anyOf patterns).ways cursor) :
    ∃ pattern ∈ patterns, stop ∈ pattern.ways cursor := by
  induction patterns with
  | nil =>
      obtain ⟨_, _, _, impossible, _⟩ := mem_ways_one reached
      cases impossible
  | cons first later ih =>
      rcases List.mem_append.mp reached with taken | taken
      · exact ⟨first, List.mem_cons_self, taken⟩
      · obtain ⟨pattern, member, taken⟩ := ih taken
        exact ⟨pattern, List.mem_cons_of_mem _ member, taken⟩

theorem mem_ways_boundary (reached : stop ∈ boundary.ways cursor) :
    wordBoundary cursor.before cursor.rest.head? = true ∧ stop = cursor := by
  cases edge : wordBoundary cursor.before cursor.rest.head? with
  | false => simp [ways_boundary, edge] at reached
  | true => exact ⟨rfl, by simpa [ways_boundary, edge] using reached⟩

theorem mem_ways_word {text : List Char} (reached : stop ∈ (word text).ways cursor) :
    ∃ rest, cursor.rest = text ++ rest ∧ stop = cursor.passed text rest := by
  induction text generalizing cursor with
  | nil =>
      obtain rfl : stop = cursor := List.mem_singleton.mp reached
      exact ⟨stop.rest, rfl, by simp [Cursor.passed]⟩
  | cons c text ih =>
      obtain ⟨middle, first, second⟩ := mem_ways_sequence.mp reached
      obtain ⟨d, rest, follows, same, rfl⟩ := mem_ways_one first
      obtain rfl : d = c := beq_iff_eq.mp same
      obtain ⟨after, tail, rfl⟩ := ih second
      refine ⟨after, ?_, ?_⟩
      · rw [follows, List.cons_append, ← tail]
        rfl
      · rw [Cursor.passed_passed, List.singleton_append]

end Ways

end Pattern

end KarelLint.Text
