import Mathlib.Algebra.Group.Nat.Defs
import KarelLint.Proofs.Text.Lines

/-! Places identify offsets. A place is read by skipping whole lines and then whole characters of one
line, and this finds an offset exactly if the place is that of the offset. All is said for an
arbitrary size of the characters, of which UTF-16 units and whole characters are two cases. -/

set_option autoImplicit false

namespace KarelLint.Text

/-! ## Counting along a line -/

section Counting

variable {size : Char → Nat}

/-- The size of a text of which each character has a size. -/
def sizeBy (size : Char → Nat) : List Char → Nat
  | [] => 0
  | c :: rest => size c + sizeBy size rest

@[simp] theorem sizeBy_nil : sizeBy size [] = 0 := rfl

@[simp] theorem sizeBy_cons (c : Char) (rest : List Char) :
    sizeBy size (c :: rest) = size c + sizeBy size rest := rfl

@[simp] theorem sizeBy_append (left right : List Char) :
    sizeBy size (left ++ right) = sizeBy size left + sizeBy size right := by
  induction left with
  | nil => simp
  | cons c left ih => simp [ih, Nat.add_assoc]

theorem sizeBy_eq_zero_iff (positive : ∀ c, 0 < size c) {text : List Char} :
    sizeBy size text = 0 ↔ text = [] := by
  cases text with
  | nil => simp
  | cons c rest =>
      have first := positive c
      simp only [sizeBy_cons, reduceCtorEq, iff_false]
      omega

/-- The place of an offset, counted along its line in sizes of characters. -/
def placeBy? (size : Char → Nat) (text : List Char) (offset : Nat) : Option Place :=
  (upTo? text offset).map fun before => ⟨lineFeeds before, sizeBy size (lastLine before)⟩

theorem unitPlace?_eq_placeBy? (text : List Char) (offset : Nat) :
    unitPlace? text offset = placeBy? unitSize text offset := by
  have same (line : List Char) : unitLength line = sizeBy unitSize line := by
    induction line with
    | nil => rfl
    | cons c line ih => rw [unitLength, sizeBy_cons, ih]
  simp only [unitPlace?, placeBy?, same]

theorem characterPlace?_eq_placeBy? (text : List Char) (offset : Nat) :
    characterPlace? text offset = placeBy? (fun _ => 1) text offset := by
  have same (line : List Char) : line.length = sizeBy (fun _ => 1) line := by
    induction line with
    | nil => rfl
    | cons c line ih => rw [List.length_cons, sizeBy_cons, ih, Nat.add_comm]
  simp only [characterPlace?, placeBy?, same]

theorem isSome_placeBy? (size : Char → Nat) (text : List Char) (offset : Nat) :
    (placeBy? size text offset).isSome = (cut? offset text).isSome := by
  rw [placeBy?, Option.isSome_map, upTo?, Option.isSome_map]

theorem OnLine.placeBy? {text earlier start after : List Char} {offset : Nat}
    (line : OnLine text offset earlier start after) (size : Char → Nat) :
    placeBy? size text offset = some ⟨Text.lineFeeds earlier, sizeBy size start⟩ := by
  rw [Text.placeBy?, line.upTo?, Option.map_some, line.lineFeeds,
    lastLine_append line.ended line.unbroken]

/-- The place of an offset counts the lines before it and what stands before it on its line. -/
theorem placeBy?_eq_some_iff {text : List Char} {offset : Nat} {place : Place} :
    placeBy? size text offset = some place ↔
      ∃ earlier start after, OnLine text offset earlier start after ∧
        place = ⟨lineFeeds earlier, sizeBy size start⟩ := by
  constructor
  · intro found
    have inside : (cut? offset text).isSome = true := by
      rw [← isSome_placeBy? size, found]
      rfl
    obtain ⟨earlier, start, after, line⟩ := exists_onLine inside
    rw [line.placeBy? size] at found
    exact ⟨earlier, start, after, line, (Option.some.inj found).symm⟩
  · intro ⟨earlier, start, after, line, same⟩
    rw [same]
    exact line.placeBy? size

end Counting

/-! ## Reading a place -/

/-- Skip a number of lines of a text that starts at an offset: the offset after them, and the text
from there on. -/
def skipLines? : Nat → Nat → List Char → Option (Nat × List Char)
  | 0, offset, text => some (offset, text)
  | _ + 1, _, [] => none
  | line + 1, offset, c :: rest =>
      if c = '\n' then skipLines? line (offset + c.utf8Size) rest
      else skipLines? (line + 1) (offset + c.utf8Size) rest

/-- Advance along the first line of a text that starts at an offset. There is no way into the middle
of a character, such as between the two units of a wide one, nor beyond the end of the line. -/
def advance? (size : Char → Nat) : Nat → Nat → List Char → Option Nat
  | 0, offset, _ => some offset
  | _ + 1, _, [] => none
  | count + 1, offset, c :: rest =>
      if c = '\n' ∨ count + 1 < size c then none
      else advance? size (count + 1 - size c) (offset + c.utf8Size) rest

/-- The offset of a place. -/
def offsetAt? (size : Char → Nat) (text : List Char) (place : Place) : Option Nat :=
  (skipLines? place.line 0 text).bind fun (start, rest) => advance? size place.column start rest

theorem eq_nil_of_lineFeeds {lines : List Char} (none : lineFeeds lines = 0)
    (ended : ∀ last ∈ lines.getLast?, last = '\n') : lines = [] := by
  cases last : lines.getLast? with
  | none => exact List.getLast?_eq_none_iff.mp last
  | some c =>
      have member : c ∈ lines := List.mem_of_getLast? last
      rw [ended c last] at member
      exact absurd member (List.count_eq_zero.mp none)

theorem skipLines?_zero (offset : Nat) (text : List Char) :
    skipLines? 0 offset text = some (offset, text) := by
  cases text with
  | nil => rfl
  | cons c text => rfl

/-- Whole lines are skipped by their line feeds. -/
theorem skipLines?_append {earlier : List Char} (ended : ∀ last ∈ earlier.getLast?, last = '\n')
    (offset : Nat) (rest : List Char) :
    skipLines? (lineFeeds earlier) offset (earlier ++ rest) =
      some (offset + byteLength earlier, rest) := by
  induction earlier generalizing offset with
  | nil => exact skipLines?_zero offset rest
  | cons c earlier ih =>
      obtain ⟨alone, ended⟩ := ended_cons_iff.mp ended
      by_cases feed : c = '\n'
      · have count : lineFeeds (c :: earlier) = lineFeeds earlier + 1 := by simp [lineFeeds, feed]
        rw [count, List.cons_append, skipLines?, if_pos feed, ih ended, byteLength_cons,
          Nat.add_assoc]
      · have count : lineFeeds (c :: earlier) = lineFeeds earlier := by simp [lineFeeds, feed]
        have present : lineFeeds earlier ≠ 0 := fun none =>
          feed (alone (eq_nil_of_lineFeeds none ended))
        obtain ⟨fewer, some⟩ := Nat.exists_eq_succ_of_ne_zero present
        have later := ih ended (offset + c.utf8Size)
        rw [some] at later
        rw [count, some, List.cons_append, skipLines?, if_neg feed, later, byteLength_cons,
          Nat.add_assoc]

/-- Nothing but whole lines is skipped. -/
theorem exists_of_skipLines? {line offset start : Nat} {text rest : List Char}
    (found : skipLines? line offset text = some (start, rest)) :
    ∃ earlier, text = earlier ++ rest ∧ start = offset + byteLength earlier ∧
      lineFeeds earlier = line ∧ ∀ last ∈ earlier.getLast?, last = '\n' := by
  induction text generalizing line offset with
  | nil =>
      cases line with
      | zero =>
          cases found
          exact ⟨[], rfl, rfl, rfl, by simp⟩
      | succ line => cases found
  | cons c text ih =>
      cases line with
      | zero =>
          cases found
          exact ⟨[], rfl, rfl, rfl, by simp⟩
      | succ line =>
          rw [skipLines?] at found
          split at found
          · next feed =>
              obtain ⟨earlier, rfl, rfl, rfl, ended⟩ := ih found
              exact ⟨c :: earlier, rfl, by simp [Nat.add_assoc], by simp [lineFeeds, feed],
                ended_cons_iff.mpr ⟨fun _ => feed, ended⟩⟩
          · next other =>
              obtain ⟨earlier, rfl, rfl, feeds, ended⟩ := ih found
              refine ⟨c :: earlier, rfl, by simp [Nat.add_assoc], ?_,
                ended_cons_iff.mpr ⟨?_, ended⟩⟩
              · simpa [lineFeeds, other] using feeds
              · rintro rfl
                cases feeds

theorem advance?_zero (size : Char → Nat) (offset : Nat) (text : List Char) :
    advance? size 0 offset text = some offset := by
  cases text with
  | nil => rfl
  | cons c text => rfl

/-- Characters of a line are passed by their sizes. -/
theorem advance?_append {size : Char → Nat} (positive : ∀ c, 0 < size c) {start : List Char}
    (unbroken : '\n' ∉ start) (offset : Nat) (after : List Char) :
    advance? size (sizeBy size start) offset (start ++ after) =
      some (offset + byteLength start) := by
  induction start generalizing offset with
  | nil => exact advance?_zero size offset after
  | cons c start ih =>
      obtain ⟨other, unbroken⟩ := not_or.mp (mt List.mem_cons.mpr unbroken)
      have first := positive c
      obtain ⟨count, total⟩ : ∃ count, size c + sizeBy size start = count + 1 :=
        Nat.exists_eq_succ_of_ne_zero (by omega)
      have free : ¬ (c = '\n' ∨ count + 1 < size c) := by
        intro blocked
        rcases blocked with feed | wide
        · exact other feed.symm
        · omega
      have remaining : count + 1 - size c = sizeBy size start := by omega
      rw [sizeBy_cons, total, List.cons_append, advance?, if_neg free, remaining, ih unbroken,
        byteLength_cons, Nat.add_assoc]

/-- Nothing but whole characters of the line is passed. -/
theorem exists_of_advance? {size : Char → Nat} {count offset stop : Nat} {text : List Char}
    (found : advance? size count offset text = some stop) :
    ∃ start after, text = start ++ after ∧ '\n' ∉ start ∧ sizeBy size start = count ∧
      stop = offset + byteLength start := by
  induction text generalizing count offset with
  | nil =>
      cases count with
      | zero =>
          cases found
          exact ⟨[], [], rfl, by simp, rfl, rfl⟩
      | succ count => cases found
  | cons c text ih =>
      cases count with
      | zero =>
          cases found
          exact ⟨[], c :: text, rfl, by simp, rfl, rfl⟩
      | succ count =>
          rw [advance?] at found
          split at found
          · cases found
          · next free =>
              obtain ⟨other, narrow⟩ := not_or.mp free
              obtain ⟨start, after, rfl, unbroken, total, rfl⟩ := ih found
              refine ⟨c :: start, after, rfl, ?_, ?_, by simp [Nat.add_assoc]⟩
              · intro member
                rcases List.mem_cons.mp member with feed | member
                · exact other feed.symm
                · exact unbroken member
              · rw [sizeBy_cons]
                omega

/-- An offset is read from a place exactly if the place is that of the offset. -/
theorem offsetAt?_eq_some_iff {size : Char → Nat} (positive : ∀ c, 0 < size c) {text : List Char}
    {place : Place} {offset : Nat} :
    offsetAt? size text place = some offset ↔ placeBy? size text offset = some place := by
  rw [placeBy?_eq_some_iff, offsetAt?, Option.bind_eq_some_iff]
  constructor
  · intro ⟨⟨middle, rest⟩, skipped, advanced⟩
    obtain ⟨earlier, rfl, rfl, feeds, ended⟩ := exists_of_skipLines? skipped
    obtain ⟨start, after, rfl, unbroken, total, rfl⟩ := exists_of_advance? advanced
    refine ⟨earlier, start, after, ⟨rfl, by simp, ended, unbroken⟩, ?_⟩
    rw [feeds, total]
  · intro ⟨earlier, start, after, line, same⟩
    subst same
    refine ⟨⟨byteLength earlier, start ++ after⟩, ?_, ?_⟩
    · have skipped := skipLines?_append line.ended 0 (start ++ after)
      rwa [Nat.zero_add, ← line.split] at skipped
    · have arrived := advance?_append positive line.unbroken (byteLength earlier) after
      rw [← byteLength_append, ← line.offset] at arrived
      exact arrived

/-! ## The order of places -/

/-- The order in which places are read: line by line, and along each line. -/
def Place.Before (first second : Place) : Prop :=
  first.line < second.line ∨ first.line = second.line ∧ first.column < second.column

theorem lastLine_append_of_unbroken (before : List Char) {part : List Char}
    (unbroken : '\n' ∉ part) : lastLine (before ++ part) = lastLine before ++ part := by
  obtain ⟨earlier, start, rfl, ended, clear⟩ := exists_lineStart before
  rw [List.append_assoc, lastLine_append ended clear, lastLine_append ended (by simp [clear, unbroken])]

/-- A part of a text moves a place forward: to a later line if it has a line feed, and else along the
line. -/
theorem before_of_append {size : Char → Nat} (positive : ∀ c, 0 < size c) (before : List Char)
    {part : List Char} (present : part ≠ []) :
    Place.Before ⟨lineFeeds before, sizeBy size (lastLine before)⟩
      ⟨lineFeeds (before ++ part), sizeBy size (lastLine (before ++ part))⟩ := by
  have feeds : lineFeeds (before ++ part) = lineFeeds before + lineFeeds part := List.count_append
  by_cases broken : '\n' ∈ part
  · left
    have some : 0 < lineFeeds part := List.count_pos_iff.mpr broken
    simp only [feeds]
    omega
  · right
    have none : lineFeeds part = 0 := List.count_eq_zero.mpr broken
    have some : sizeBy size part ≠ 0 := mt (sizeBy_eq_zero_iff positive).mp present
    simp only [feeds, none, lastLine_append_of_unbroken before broken, sizeBy_append]
    omega

theorem before_of_lt {size : Char → Nat} (positive : ∀ c, 0 < size c) {text : List Char}
    {offset further : Nat} {place other : Place} (found : placeBy? size text offset = some place)
    (found' : placeBy? size text further = some other) (lt : offset < further) :
    place.Before other := by
  obtain ⟨before, upTo, rfl⟩ := Option.map_eq_some_iff.mp found
  obtain ⟨before', upTo', rfl⟩ := Option.map_eq_some_iff.mp found'
  obtain ⟨⟨_, after⟩, cut, rfl⟩ := Option.map_eq_some_iff.mp upTo
  obtain ⟨⟨_, after'⟩, cut', rfl⟩ := Option.map_eq_some_iff.mp upTo'
  obtain ⟨split, rfl⟩ := cut?_eq_some cut
  obtain ⟨split', rfl⟩ := cut?_eq_some cut'
  obtain ⟨part, rfl, _⟩ := exists_between_cuts (split.symm.trans split') (Nat.le_of_lt lt)
  apply before_of_append positive
  rintro rfl
  simp at lt

theorem lt_iff_before {size : Char → Nat} (positive : ∀ c, 0 < size c) {text : List Char}
    {offset further : Nat} {place other : Place} (found : placeBy? size text offset = some place)
    (found' : placeBy? size text further = some other) :
    offset < further ↔ place.Before other := by
  constructor
  · exact before_of_lt positive found found'
  · intro forward
    rcases Nat.lt_trichotomy offset further with lt | same | gt
    · exact lt
    · subst same
      obtain rfl := Option.some.inj (found.symm.trans found')
      unfold Place.Before at forward
      omega
    · have backward := before_of_lt positive found' found gt
      unfold Place.Before at forward backward
      omega

/-! ## Places and offsets -/

/-- Places that identify the offsets between the characters of a text: each such offset has a place,
which fits in 32 bits, later offsets have later places, and an offset is read back from its place. -/
structure Identifies (text : List Char) (size : Char → Nat) (place? : Nat → Option Place) :
    Prop where
  total : ∀ offset, (place? offset).isSome = true ↔
    ∃ before after, text = before ++ after ∧ offset = byteLength before
  bounded : ∀ offset place, place? offset = some place →
    place.line < 2 ^ 32 ∧ place.column < 2 ^ 32
  ordered : ∀ offset further place other, place? offset = some place →
    place? further = some other → (offset < further ↔ place.Before other)
  injective : ∀ offset further place, place? offset = some place →
    place? further = some place → offset = further
  read : ∀ offset place, offsetAt? size text place = some offset ↔ place? offset = some place

theorem isSome_cut?_iff {text : List Char} {offset : Nat} :
    (cut? offset text).isSome = true ↔
      ∃ before after, text = before ++ after ∧ offset = byteLength before := by
  constructor
  · intro inside
    obtain ⟨⟨before, after⟩, found⟩ := Option.isSome_iff_exists.mp inside
    obtain ⟨split, size⟩ := cut?_eq_some found
    exact ⟨before, after, split, size.symm⟩
  · intro ⟨before, after, split, size⟩
    rw [split, size, cut?_byteLength_append]
    rfl

theorem sizeBy_le_byteLength {size : Char → Nat} (narrow : ∀ c, size c ≤ c.utf8Size)
    (text : List Char) : sizeBy size text ≤ byteLength text := by
  induction text with
  | nil => exact Nat.le_refl 0
  | cons c text ih => exact Nat.add_le_add (narrow c) ih

theorem identifies_placeBy? {size : Char → Nat} (positive : ∀ c, 0 < size c)
    (narrow : ∀ c, size c ≤ c.utf8Size) {text : List Char} (small : byteLength text < 2 ^ 32) :
    Identifies text size (placeBy? size text) := by
  constructor
  case total =>
    intro offset
    rw [isSome_placeBy?, isSome_cut?_iff]
  case bounded =>
    intro offset place found
    obtain ⟨earlier, start, after, line, rfl⟩ := placeBy?_eq_some_iff.mp found
    have lines := line.bounded.1
    have along := sizeBy_le_byteLength narrow start
    have inside : byteLength start ≤ byteLength text := by
      simp only [line.split, byteLength_append]
      omega
    exact ⟨Nat.lt_of_le_of_lt lines small,
      Nat.lt_of_le_of_lt (Nat.le_trans along inside) small⟩
  case ordered =>
    intro offset further place other found found'
    exact lt_iff_before positive found found'
  case injective =>
    intro offset further place found found'
    have read := (offsetAt?_eq_some_iff positive).mpr found
    rw [(offsetAt?_eq_some_iff positive).mpr found'] at read
    exact (Option.some.inj read).symm
  case read =>
    intro offset place
    exact offsetAt?_eq_some_iff positive

/-- The places of editors, in UTF-16 units, and those of people, in characters, identify the offsets
of a text. -/
theorem places_identify_offsets (text : String) (small : text.utf8ByteSize < 2 ^ 32) :
    Identifies text.toList unitSize (unitPlace? text.toList) ∧
      Identifies text.toList (fun _ => 1) (characterPlace? text.toList) := by
  rw [← byteLength_toList] at small
  have units : unitPlace? text.toList = placeBy? unitSize text.toList :=
    funext (unitPlace?_eq_placeBy? text.toList)
  have characters : characterPlace? text.toList = placeBy? (fun _ => 1) text.toList :=
    funext (characterPlace?_eq_placeBy? text.toList)
  rw [units, characters]
  constructor
  · apply identifies_placeBy? _ unitSize_le_utf8Size small
    intro c
    unfold unitSize
    split
    · exact Nat.one_pos
    · exact Nat.two_pos
  · exact identifies_placeBy? (fun _ => Nat.one_pos) (fun c => c.utf8Size_pos) small

/-- Two lines, the first of them with a wide character. -/
def wideLines : String :=
  "a😀b\né"

theorem places_identify_offsets_wideLines :
    wideLines.utf8ByteSize < 2 ^ 32 ∧
    [0, 1, 5, 6, 7, 9].map (unitPlace? wideLines.toList) =
      [some ⟨0, 0⟩, some ⟨0, 1⟩, some ⟨0, 3⟩, some ⟨0, 4⟩, some ⟨1, 0⟩, some ⟨1, 1⟩] ∧
    [0, 1, 5, 6, 7, 9].map (characterPlace? wideLines.toList) =
      [some ⟨0, 0⟩, some ⟨0, 1⟩, some ⟨0, 2⟩, some ⟨0, 3⟩, some ⟨1, 0⟩, some ⟨1, 1⟩] ∧
    offsetAt? unitSize wideLines.toList ⟨0, 2⟩ = none ∧
    offsetAt? unitSize wideLines.toList ⟨0, 5⟩ = none ∧
    Identifies wideLines.toList unitSize (unitPlace? wideLines.toList) ∧
      Identifies wideLines.toList (fun _ => 1) (characterPlace? wideLines.toList) := by
  have small : wideLines.utf8ByteSize < 2 ^ 32 := by decide
  exact ⟨small, by decide, by decide, by decide, by decide,
    places_identify_offsets wideLines small⟩

end KarelLint.Text
