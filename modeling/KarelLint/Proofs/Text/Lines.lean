import KarelLint.Proofs.Source.Headings
import KarelLint.Proofs.Text.Positions

/-! Lines of a text up to an offset. What stands before an offset is a number of whole lines and the
start of one more line, and the places of the offset are counted along that start: in characters
for people, and in UTF-16 units for editors. -/

set_option autoImplicit false

namespace KarelLint.Text

/-! ## UTF-16 units -/

/-- A character above U+FFFF, which takes two UTF-16 units. -/
def isWide (c : Char) : Bool :=
  0xFFFF < c.toNat

theorem unitLength_eq (text : List Char) : unitLength text = text.length + text.countP isWide := by
  induction text with
  | nil => rfl
  | cons c rest ih =>
      rw [unitLength, ih, List.length_cons, List.countP_cons]
      by_cases narrow : c.toNat ≤ 0xFFFF
      · simp [unitSize, isWide, narrow, Nat.not_lt.mpr narrow]
        omega
      · simp [unitSize, isWide, narrow, Nat.lt_of_not_le narrow]
        omega

theorem length_le_byteLength (text : List Char) : text.length ≤ byteLength text := by
  induction text with
  | nil => simp
  | cons c rest ih =>
      have wide : 0 < c.utf8Size := c.utf8Size_pos
      simp only [List.length_cons, byteLength_cons]
      omega

/-- A character takes no more UTF-16 units than bytes. -/
theorem unitSize_le_utf8Size (c : Char) : unitSize c ≤ c.utf8Size := by
  have positive : 0 < c.utf8Size := c.utf8Size_pos
  unfold unitSize
  split
  · exact positive
  · next wide =>
      have several : c.utf8Size ≠ 1 := by
        intro one
        have ascii := Char.utf8Size_eq_one_iff.mp one
        exact wide (Nat.le_trans (UInt32.le_iff_toNat_le.mp ascii) (by decide))
      omega

theorem unitLength_le_byteLength (text : List Char) : unitLength text ≤ byteLength text := by
  induction text with
  | nil => exact Nat.le_refl 0
  | cons c rest ih => exact Nat.add_le_add (unitSize_le_utf8Size c) ih

section Parts

variable {name : List Char}

theorem utf8Size_of_isIdentifierPart {c : Char} (part : isIdentifierPart c = true) :
    c.utf8Size = 1 := by
  have one : (c.utf8Size == 1) = true :=
    @forall_isIdentifierPart (fun c => c.utf8Size == 1) (by decide) c part
  simpa using one

theorem isWide_of_isIdentifierPart {c : Char} (part : isIdentifierPart c = true) :
    isWide c = false := by
  have narrow : (!isWide c) = true :=
    @forall_isIdentifierPart (fun c => !isWide c) (by decide) c part
  simpa using narrow

/-- The characters of an identifier take one byte each. -/
theorem byteLength_of_parts (parts : ∀ c ∈ name, isIdentifierPart c = true) :
    byteLength name = name.length := by
  induction name with
  | nil => rfl
  | cons c rest ih =>
      rw [byteLength_cons, utf8Size_of_isIdentifierPart (parts c List.mem_cons_self),
        ih fun d member => parts d (List.mem_cons_of_mem _ member), List.length_cons, Nat.add_comm]

theorem countP_isWide_of_parts (parts : ∀ c ∈ name, isIdentifierPart c = true) :
    name.countP isWide = 0 := by
  apply List.countP_eq_zero.mpr
  intro c member
  simp [isWide_of_isIdentifierPart (parts c member)]

theorem lineFeed_not_mem_of_parts (parts : ∀ c ∈ name, isIdentifierPart c = true) :
    '\n' ∉ name := by
  intro member
  have part := parts _ member
  revert part
  decide

end Parts

/-! ## The line of an offset -/

/-- The line of an offset: `earlier` holds the lines before it and `start` what stands on it before
the offset. -/
structure OnLine (text : List Char) (offset : Nat) (earlier start after : List Char) : Prop where
  split : text = earlier ++ (start ++ after)
  offset : offset = byteLength (earlier ++ start)
  ended : ∀ c ∈ earlier.getLast?, c = '\n'
  unbroken : '\n' ∉ start

theorem lastLine_append {earlier start : List Char} (ended : ∀ c ∈ earlier.getLast?, c = '\n')
    (unbroken : '\n' ∉ start) : lastLine (earlier ++ start) = start := by
  have all : ∀ c ∈ start.reverse, decide (c ≠ '\n') = true := by
    intro c member
    have different : c ≠ '\n' := fun same => unbroken (same ▸ List.mem_reverse.mp member)
    simp [different]
  have stop : earlier.reverse.takeWhile (fun c => decide (c ≠ '\n')) = [] := by
    cases reversed : earlier.reverse with
    | nil => rfl
    | cons c rest =>
        have last : c = '\n' := ended c (by rw [List.getLast?_eq_head?_reverse, reversed]; rfl)
        simp [last]
  rw [lastLine, List.reverse_append, List.takeWhile_append_of_pos all, stop, List.append_nil,
    List.reverse_reverse]

theorem ended_cons_iff {c : Char} {lines : List Char} :
    (∀ last ∈ (c :: lines).getLast?, last = '\n') ↔
      (lines = [] → c = '\n') ∧ ∀ last ∈ lines.getLast?, last = '\n' := by
  cases lines with
  | nil => simp
  | cons d lines => simp [List.getLast?_cons]

theorem exists_lineStart (before : List Char) :
    ∃ earlier start, before = earlier ++ start ∧ (∀ c ∈ earlier.getLast?, c = '\n') ∧
      '\n' ∉ start := by
  obtain ⟨line, rest, split, kept, stops⟩ := exists_run (fun c => c != '\n') before.reverse
  refine ⟨rest.reverse, line.reverse, ?_, ?_, ?_⟩
  · rw [← List.reverse_append, ← split, List.reverse_reverse]
  · intro c last
    rw [List.getLast?_reverse] at last
    simpa using stops c last
  · intro member
    have different := kept _ (List.mem_reverse.mp member)
    simp at different

theorem exists_onLine {text : List Char} {offset : Nat}
    (inside : (cut? offset text).isSome = true) :
    ∃ earlier start after, OnLine text offset earlier start after := by
  obtain ⟨⟨before, after⟩, found⟩ := Option.isSome_iff_exists.mp inside
  obtain ⟨rfl, size⟩ := cut?_eq_some found
  obtain ⟨earlier, start, rfl, ended, unbroken⟩ := exists_lineStart before
  exact ⟨earlier, start, after, List.append_assoc _ _ _, size.symm, ended, unbroken⟩

namespace OnLine

variable {text earlier start after : List Char} {offset : Nat}

theorem upTo? (line : OnLine text offset earlier start after) :
    upTo? text offset = some (earlier ++ start) := by
  rw [Text.upTo?, line.split, line.offset, ← List.append_assoc, cut?_byteLength_append]
  rfl

theorem lineFeeds (line : OnLine text offset earlier start after) :
    lineFeeds (earlier ++ start) = lineFeeds earlier := by
  rw [Text.lineFeeds, List.count_append, List.count_eq_zero.mpr line.unbroken, Nat.add_zero,
    Text.lineFeeds]

/-- People count the characters before the offset. -/
theorem characterPlace? (line : OnLine text offset earlier start after) :
    characterPlace? text offset = some ⟨Text.lineFeeds earlier, start.length⟩ := by
  rw [Text.characterPlace?, line.upTo?, Option.map_some, line.lineFeeds,
    lastLine_append line.ended line.unbroken]

/-- Editors count one more for each wide character before the offset. -/
theorem unitPlace? (line : OnLine text offset earlier start after) :
    unitPlace? text offset =
      some ⟨Text.lineFeeds earlier, start.length + start.countP isWide⟩ := by
  rw [Text.unitPlace?, line.upTo?, Option.map_some, line.lineFeeds,
    lastLine_append line.ended line.unbroken, unitLength_eq]

/-- Within a line, an offset can be moved over what follows it. -/
theorem advance {part rest : List Char} (line : OnLine text offset earlier start (part ++ rest))
    (unbroken : '\n' ∉ part) :
    OnLine text (offset + byteLength part) earlier (start ++ part) rest where
  split := by simp [line.split]
  offset := by simp [line.offset, Nat.add_assoc]
  ended := line.ended
  unbroken := by simp [line.unbroken, unbroken]

/-- A part of the text at an offset follows what stands before it on its line. -/
theorem exists_rest {part : List Char} (line : OnLine text offset earlier start after)
    (stands : StandsAt 0 text offset part) : ∃ rest, after = part ++ rest := by
  obtain ⟨before, rest, split, here⟩ := stands
  have whole : earlier ++ start ++ after = before ++ (part ++ rest) := by
    rw [List.append_assoc, ← line.split, split]
  have size : byteLength (earlier ++ start) = byteLength before := by
    rw [← line.offset, here, Nat.zero_add]
  exact ⟨rest, (append_inj_of_byteLength whole size).2⟩

/-- No count of a place exceeds the size of the text. -/
theorem bounded (line : OnLine text offset earlier start after) :
    Text.lineFeeds earlier ≤ byteLength text ∧
      start.length + start.countP isWide ≤ byteLength text := by
  have feeds : Text.lineFeeds earlier ≤ byteLength earlier :=
    Nat.le_trans List.count_le_length (length_le_byteLength earlier)
  have units := unitLength_le_byteLength start
  rw [unitLength_eq] at units
  simp only [line.split, byteLength_append]
  omega

end OnLine

/-! ## The lines of a text -/

/-- A line without the carriage return at its end. -/
def withoutEnd (line : List Char) : List Char :=
  (lines.withoutReturn line.reverse).reverse

theorem withoutEnd_cases (line : List Char) :
    withoutEnd line = line ∨ line = withoutEnd line ++ ['\r'] := by
  unfold withoutEnd
  cases reversed : line.reverse with
  | nil =>
      left
      rw [← List.reverse_reverse line, reversed]
      rfl
  | cons c front =>
      have whole : line = front.reverse ++ [c] := by
        rw [← List.reverse_cons, ← reversed, List.reverse_reverse]
      by_cases ends : c = '\r'
      · right
        rw [whole, ends]
        rfl
      · left
        rw [whole, lines.withoutReturn]
        · exact List.reverse_cons
        · intro _ same
          exact ends (List.cons.inj same).1

theorem prefix_withoutEnd {kept line : List Char} (starts : kept <+: line)
    (ends : kept.getLast? ≠ some '\r') : kept <+: withoutEnd line := by
  rcases withoutEnd_cases line with same | cut
  · rwa [same]
  · rw [cut] at starts
    rcases List.prefix_concat_iff.mp starts with whole | shorter
    · rw [whole, List.getLast?_append_of_ne_nil _ (List.cons_ne_nil _ _)] at ends
      exact absurd rfl ends
    · exact shorter

theorem scan_append_of_unbroken {part : List Char} (unbroken : '\n' ∉ part)
    (line rest : List Char) :
    lines.scan line (part ++ rest) = lines.scan (part.reverse ++ line) rest := by
  induction part generalizing line with
  | nil => rfl
  | cons c part ih =>
      obtain ⟨other, unbroken⟩ := not_or.mp (mt List.mem_cons.mpr unbroken)
      rw [List.cons_append, lines.scan, if_neg fun feed => other feed.symm, ih unbroken,
        List.reverse_cons, List.append_assoc]
      rfl

/-- Whole lines give one line for each of their line feeds, and what follows is split alone. -/
theorem exists_scan_append {earlier : List Char} (ended : ∀ c ∈ earlier.getLast?, c = '\n')
    {line : List Char} (fresh : earlier = [] → line = []) (rest : List Char) :
    ∃ first, lines.scan line (earlier ++ rest) = first ++ lines.scan [] rest ∧
      first.length = lineFeeds earlier := by
  induction earlier generalizing line with
  | nil =>
      rw [fresh rfl]
      exact ⟨[], rfl, rfl⟩
  | cons c earlier ih =>
      obtain ⟨alone, ended⟩ := ended_cons_iff.mp ended
      by_cases feed : c = '\n'
      · obtain ⟨first, split, length⟩ := @ih ended [] (fun _ => rfl)
        refine ⟨(lines.withoutReturn line).reverse :: first, ?_, ?_⟩
        · rw [List.cons_append, lines.scan, if_pos feed, split, List.cons_append]
        · simp [lineFeeds, feed, length]
      · obtain ⟨first, split, length⟩ := @ih ended (c :: line) (fun empty => absurd (alone empty) feed)
        refine ⟨first, ?_, ?_⟩
        · rw [List.cons_append, lines.scan, if_neg feed, split]
        · simp [lineFeeds, feed, length]

/-- The first line of a text is all before its line feed, less a carriage return there. -/
theorem exists_head?_lines {whole rest : List Char} (unbroken : '\n' ∉ whole) (present : whole ≠ [])
    (stops : ∀ c ∈ rest.head?, c = '\n') :
    ∃ line, (lines (whole ++ rest)).head? = some line ∧ (line = whole ∨ line = withoutEnd whole) := by
  have scanned := scan_append_of_unbroken unbroken [] rest
  rw [List.append_nil] at scanned
  cases rest with
  | nil =>
      refine ⟨whole, ?_, .inl rfl⟩
      rw [lines, scanned, lines.scan, if_neg (by simpa using present), List.reverse_reverse]
      rfl
  | cons c rest =>
      refine ⟨withoutEnd whole, ?_, .inr rfl⟩
      rw [lines, scanned, lines.scan, if_pos (stops c rfl)]
      rfl

/-- The line of an offset is among the lines of the text, and shows what stands around the offset. -/
theorem OnLine.exists_line {text earlier start mark after : List Char} {offset : Nat}
    (line : OnLine text offset earlier start (mark ++ after)) (present : mark ≠ [])
    (unbroken : '\n' ∉ mark) (ends : mark.getLast? ≠ some '\r') :
    ∃ shown, (lines text)[Text.lineFeeds earlier]? = some shown ∧ start ++ mark <+: shown ∧
      '\n' ∉ shown := by
  obtain ⟨more, rest, rfl, kept, stops⟩ := exists_run (fun c => c != '\n') after
  have clear : '\n' ∉ more := fun member => by simpa using kept _ member
  have complete : '\n' ∉ start ++ mark ++ more := by simp [line.unbroken, unbroken, clear]
  obtain ⟨shown, found, same⟩ := @exists_head?_lines (start ++ mark ++ more) rest complete
    (by simp [present]) (by simpa using stops)
  have starts : start ++ mark <+: start ++ mark ++ more := List.prefix_append _ _
  have ends' : (start ++ mark).getLast? ≠ some '\r' := by
    rwa [List.getLast?_append_of_ne_nil _ present]
  refine ⟨shown, ?_, ?_, ?_⟩
  · obtain ⟨first, split, length⟩ := @exists_scan_append _ line.ended [] (fun _ => rfl)
      (start ++ (mark ++ (more ++ rest)))
    rw [line.split, lines, split, ← length, List.getElem?_append_right (Nat.le_refl _),
      Nat.sub_self, ← List.head?_eq_getElem?]
    simpa [lines] using found
  · rcases same with rfl | rfl
    · exact starts
    · exact prefix_withoutEnd starts ends'
  · rcases same with rfl | rfl
    · exact complete
    · intro member
      rcases withoutEnd_cases (start ++ mark ++ more) with uncut | cut
      · rw [uncut] at member
        exact complete member
      · exact complete (by rw [cut]; exact List.mem_append_left _ member)

end KarelLint.Text
