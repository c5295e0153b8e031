import KarelLint.Proofs.Diagnosis.Anchors
import KarelLint.Proofs.Text.Lines

/-! The excerpt of a problem on a terminal: the line of the program where the problem lies, and a
caret below its first character. The two lines are compared without the control sequences that
colour them. The line of the program is shown as it is, so only what stands before it is coloured. -/

set_option autoImplicit false

namespace KarelLint

/-! ## Colours -/

namespace Terminal

/-- Text without control sequences, which start with an escape character and end with the next letter
`m`. The text itself may start inside of one. -/
def uncolouredFrom (inside : Bool) : List Char → List Char
  | [] => []
  | c :: rest =>
      if inside then uncolouredFrom (c != 'm') rest
      else if c = '\x1b' then uncolouredFrom true rest
      else c :: uncolouredFrom false rest

/-- A text without its control sequences. -/
def uncoloured (text : List Char) : List Char :=
  uncolouredFrom false text

theorem uncoloured_append {plain : List Char} (clear : '\x1b' ∉ plain) (rest : List Char) :
    uncoloured (plain ++ rest) = plain ++ uncoloured rest := by
  induction plain with
  | nil => rfl
  | cons c plain ih =>
      obtain ⟨other, clear⟩ := not_or.mp (mt List.mem_cons.mpr clear)
      have step : uncoloured (c :: (plain ++ rest)) = c :: uncoloured (plain ++ rest) := by
        rw [uncoloured, uncolouredFrom, if_neg Bool.false_ne_true, if_neg fun same => other same.symm]
        rfl
      rw [List.cons_append, step, ih clear, List.cons_append]

theorem uncolouredFrom_parameters {parameters : List Char} (clear : 'm' ∉ parameters)
    (rest : List Char) : uncolouredFrom true (parameters ++ 'm' :: rest) = uncoloured rest := by
  induction parameters with
  | nil => rfl
  | cons c parameters ih =>
      obtain ⟨other, clear⟩ := not_or.mp (mt List.mem_cons.mpr clear)
      have inside : (c != 'm') = true := bne_iff_ne.mpr fun same => other same.symm
      rw [List.cons_append, uncolouredFrom, if_pos rfl, inside, ih clear]

theorem uncoloured_control {parameters : String} (clear : 'm' ∉ parameters.toList)
    (rest : List Char) :
    uncoloured (("\x1b[" ++ parameters ++ "m").toList ++ rest) = uncoloured rest := by
  have written : ("\x1b[" ++ parameters ++ "m").toList ++ rest =
      '\x1b' :: ('[' :: parameters.toList ++ 'm' :: rest) := by
    simp
  have unopened : 'm' ∉ '[' :: parameters.toList := by
    intro member
    rcases List.mem_cons.mp member with same | member
    · cases same
    · exact clear member
  rw [written, uncoloured, uncolouredFrom, if_neg Bool.false_ne_true, if_pos rfl]
  exact uncolouredFrom_parameters unopened rest

/-- Colouring adds control sequences and nothing else. -/
theorem uncoloured_styled {on off text : String} (before : 'm' ∉ on.toList)
    (after : 'm' ∉ off.toList) (clear : '\x1b' ∉ text.toList) (rest : List Char) :
    uncoloured ((styled on off text).toList ++ rest) = text.toList ++ uncoloured rest := by
  have written : (styled on off text).toList ++ rest = ("\x1b[" ++ on ++ "m").toList ++
      (text.toList ++ (("\x1b[" ++ off ++ "m").toList ++ rest)) := by
    simp [styled]
  rw [written, uncoloured_control before, uncoloured_append clear, uncoloured_control after]

theorem uncoloured_blue {text : String} (clear : '\x1b' ∉ text.toList) (rest : List Char) :
    uncoloured ((blue text).toList ++ rest) = text.toList ++ uncoloured rest :=
  uncoloured_styled (by decide) (by decide) clear rest

theorem uncoloured_red {text : String} (clear : '\x1b' ∉ text.toList) (rest : List Char) :
    uncoloured ((red text).toList ++ rest) = text.toList ++ uncoloured rest :=
  uncoloured_styled (by decide) (by decide) clear rest

theorem toList_alignRight (width : Nat) (text : String) :
    (alignRight width text).toList = List.replicate (width - text.length) ' ' ++ text.toList := by
  simp [alignRight, spaces]

theorem not_mem_alignRight {c : Char} {text : String} (visible : c ≠ ' ') (absent : c ∉ text.toList)
    (width : Nat) : c ∉ (alignRight width text).toList := by
  rw [toList_alignRight]
  intro member
  rcases List.mem_append.mp member with space | member
  · exact visible (List.eq_of_mem_replicate space)
  · exact absent member

namespace Excerpt

/-! ## The lines of an excerpt -/

/-- What stands before the line of the program. -/
def margin (excerpt : Excerpt) : String :=
  blue (alignRight excerpt.gutter excerpt.lineNumber) ++ " " ++ bar ++ " "

theorem toList_codeLine (excerpt : Excerpt) :
    excerpt.codeLine.toList = excerpt.margin.toList ++ excerpt.code.toList := by
  rw [codeLine, String.toList_append]
  rfl

theorem not_mem_lineNumber {c : Char} (other : c.isDigit = false) (excerpt : Excerpt) :
    c ∉ excerpt.lineNumber.toList := by
  have digits : excerpt.lineNumber.toList = Nat.toDigits 10 (excerpt.place.line + 1) :=
    String.toList_ofList
  rw [digits]
  intro member
  rw [Nat.isDigit_of_mem_toDigits (by decide) (by decide) member] at other
  cases other

theorem uncoloured_bar (rest : List Char) :
    uncoloured ((" " ++ bar ++ " ").toList ++ rest) = [' ', '|', ' '] ++ uncoloured rest := by
  have written : (" " ++ bar ++ " ").toList ++ rest =
      [' '] ++ ((blue "|").toList ++ ([' '] ++ rest)) := by
    simp [bar]
  rw [written, uncoloured_append (by decide), uncoloured_blue (by decide),
    uncoloured_append (by decide)]
  rfl

theorem uncoloured_margin (excerpt : Excerpt) (rest : List Char) :
    uncoloured (excerpt.margin.toList ++ rest) =
      (alignRight excerpt.gutter excerpt.lineNumber).toList ++ [' ', '|', ' '] ++
        uncoloured rest := by
  have written : excerpt.margin.toList ++ rest =
      (blue (alignRight excerpt.gutter excerpt.lineNumber)).toList ++
        ((" " ++ bar ++ " ").toList ++ rest) := by
    simp [margin]
  have clear : '\x1b' ∉ (alignRight excerpt.gutter excerpt.lineNumber).toList :=
    not_mem_alignRight (by decide) (not_mem_lineNumber (by decide) excerpt) _
  rw [written, uncoloured_blue clear, uncoloured_bar, List.append_assoc]

/-- The line number fits in its column, whatever its number of digits. -/
theorem length_uncoloured_margin (excerpt : Excerpt) :
    (uncoloured excerpt.margin.toList).length = excerpt.gutter + 3 := by
  have fits : excerpt.lineNumber.length ≤ excerpt.gutter := Nat.le_max_right _ _
  have whole := uncoloured_margin excerpt []
  rw [List.append_nil] at whole
  rw [whole, toList_alignRight]
  simp only [List.length_append, List.length_replicate, String.length_toList, List.length_cons,
    List.length_nil, uncoloured, uncolouredFrom]
  omega

theorem uncoloured_caretLine (excerpt : Excerpt) :
    uncoloured excerpt.caretLine.toList =
      List.replicate excerpt.gutter ' ' ++ [' ', '|', ' '] ++
        List.replicate excerpt.place.column ' ' ++ ['^'] := by
  have written : excerpt.caretLine.toList = List.replicate excerpt.gutter ' ' ++
      ((" " ++ bar ++ " ").toList ++ ((red (alignRight (excerpt.place.column + 1) "^")).toList ++
        [])) := by
    simp [caretLine, spaces]
  have field : (alignRight (excerpt.place.column + 1) "^").toList =
      List.replicate excerpt.place.column ' ' ++ ['^'] := by
    rw [toList_alignRight]
    rfl
  have clear : '\x1b' ∉ (alignRight (excerpt.place.column + 1) "^").toList :=
    not_mem_alignRight (by decide) (by decide) _
  have spaced : '\x1b' ∉ List.replicate excerpt.gutter ' ' :=
    fun member => absurd (List.eq_of_mem_replicate member) (by decide)
  rw [written, uncoloured_append spaced, uncoloured_bar, uncoloured_red clear, field]
  simp [uncoloured, uncolouredFrom]

theorem idxOf_caret (excerpt : Excerpt) :
    (uncoloured excerpt.caretLine.toList).idxOf '^' =
      (uncoloured excerpt.margin.toList).length + excerpt.place.column := by
  have absent : '^' ∉ List.replicate excerpt.gutter ' ' ++ [' ', '|', ' '] ++
      List.replicate excerpt.place.column ' ' := by
    simp
  rw [uncoloured_caretLine, List.idxOf_append_of_notMem absent, length_uncoloured_margin,
    List.length_append, List.length_append, List.length_replicate, List.length_replicate,
    List.idxOf_cons_self]
  rfl

theorem count_caret (excerpt : Excerpt) :
    (uncoloured excerpt.caretLine.toList).count '^' = 1 := by
  rw [uncoloured_caretLine]
  simp [List.count_replicate]

theorem lineFeed_not_mem_margin (excerpt : Excerpt) : '\n' ∉ excerpt.margin.toList := by
  have number : '\n' ∉ (alignRight excerpt.gutter excerpt.lineNumber).toList :=
    not_mem_alignRight (by decide) (not_mem_lineNumber (by decide) excerpt) _
  simp [margin, bar, blue, styled, number]

theorem lineFeed_not_mem_caretLine (excerpt : Excerpt) : '\n' ∉ excerpt.caretLine.toList := by
  have field : '\n' ∉ (alignRight (excerpt.place.column + 1) "^").toList :=
    not_mem_alignRight (by decide) (by decide) _
  simp [caretLine, spaces, bar, blue, red, styled, field]

end Excerpt

end Terminal

/-! ## The problem in its line -/

namespace Diagnosis

open KarelLint.Source KarelLint.Text

/-- The characters that a problem is about: an illegal character, or a name. -/
def Problem.marked (problem : Problem) : List Char :=
  match problem.fault with
  | .illegalCharacter c => [c]
  | fault => ((fault.name?).map String.toList).getD []

theorem marked_of_name {problem : Problem} {name : String}
    (named : problem.fault.name? = some name) : problem.marked = name.toList := by
  unfold Problem.marked
  split
  · next c same =>
      rw [same] at named
      cases named
  · rw [named]
    rfl

namespace Anchored

variable {text : List Char} {problem : Problem}

/-- What a problem is about stands at its offset, and has no line end in it. -/
theorem marked (anchored : Anchored text problem) :
    problem.marked ≠ [] ∧ (∀ c ∈ problem.marked, c ≠ '\n' ∧ c ≠ '\r') ∧
      StandsAt 0 text problem.offset problem.marked := by
  by_cases character : ∃ c, problem.fault = .illegalCharacter c
  · obtain ⟨c, same⟩ := character
    obtain ⟨slice, illegal⟩ := anchored.character c same
    have mark : problem.marked = [c] := by simp [Problem.marked, same]
    rw [mark]
    refine ⟨List.cons_ne_nil c [], ?_, StandsAt.of_slice? (by simpa using slice)⟩
    intro d member
    obtain rfl := List.mem_singleton.mp member
    constructor
    · rintro rfl
      revert illegal
      decide
    · rintro rfl
      revert illegal
      decide
  · obtain ⟨name, named, _, slice, identifier⟩ := anchored.name fun c same => character ⟨c, same⟩
    have width : problem.width = byteLength name.toList := by simp [Problem.width, named]
    rw [width] at slice
    rw [marked_of_name named]
    refine ⟨?_, ?_, StandsAt.of_slice? slice⟩
    · obtain ⟨first, tail, split, _⟩ := identifier.exists_cons
      rw [split]
      exact List.cons_ne_nil first tail
    · intro c member
      have part := identifier.parts c member
      constructor
      · rintro rfl
        revert part
        decide
      · rintro rfl
        revert part
        decide

/-- The line of a problem is among the lines of the text, and what the problem is about stands on it
at the column of the problem. -/
theorem exists_line (anchored : Anchored text problem) :
    ∃ place line, characterPlace? text problem.offset = some place ∧
      (lines text)[place.line]? = some line ∧ problem.marked <+: line.drop place.column ∧
      '\n' ∉ line := by
  obtain ⟨present, unbroken, stands⟩ := anchored.marked
  obtain ⟨earlier, start, after, placed⟩ := exists_onLine anchored.start
  obtain ⟨rest, rfl⟩ := placed.exists_rest stands
  have ends : problem.marked.getLast? ≠ some '\r' :=
    fun last => (unbroken _ (List.mem_of_getLast? last)).2 rfl
  obtain ⟨line, found, starts, clear⟩ := placed.exists_line present
    (fun member => (unbroken _ member).1 rfl) ends
  refine ⟨_, line, placed.characterPlace?, found, ?_, clear⟩
  obtain ⟨tail, rfl⟩ := starts
  simp

end Anchored

open KarelLint.Terminal

/-- What an excerpt shows of a line of a program: the line as it is, after a margin, and below it one
caret, at the place of the first of the characters that are marked. -/
structure Points (excerpt : Excerpt) (line marked : List Char) : Prop where
  code : excerpt.codeLine.toList = excerpt.margin.toList ++ line
  unbroken : '\n' ∉ excerpt.codeLine.toList ∧ '\n' ∉ excerpt.caretLine.toList
  clear : '\x1b' ∉ line →
    uncoloured excerpt.codeLine.toList = uncoloured excerpt.margin.toList ++ line
  single : (uncoloured excerpt.caretLine.toList).count '^' = 1
  aligned : (uncoloured excerpt.caretLine.toList).idxOf '^' =
    (uncoloured excerpt.margin.toList).length + excerpt.place.column
  below :
    (uncoloured excerpt.margin.toList ++ line)[(uncoloured excerpt.caretLine.toList).idxOf '^']? =
      marked.head?

theorem points_of_prefix {excerpt : Excerpt} {line marked : List Char}
    (shown : excerpt.code = String.ofList line) (unbroken : '\n' ∉ line) (present : marked ≠ [])
    (starts : marked <+: line.drop excerpt.place.column) : Points excerpt line marked := by
  have code : excerpt.codeLine.toList = excerpt.margin.toList ++ line := by
    rw [excerpt.toList_codeLine, shown, String.toList_ofList]
  constructor
  case code => exact code
  case unbroken =>
    refine ⟨?_, excerpt.lineFeed_not_mem_caretLine⟩
    rw [code]
    intro member
    rcases List.mem_append.mp member with before | member
    · exact excerpt.lineFeed_not_mem_margin before
    · exact unbroken member
  case clear =>
    intro clear
    have plain := uncoloured_append clear []
    rw [List.append_nil] at plain
    have margin := excerpt.uncoloured_margin []
    rw [List.append_nil] at margin
    rw [code, excerpt.uncoloured_margin, margin, plain]
    simp [uncoloured, uncolouredFrom]
  case single => exact excerpt.count_caret
  case aligned => exact excerpt.idxOf_caret
  case below =>
    rw [excerpt.idxOf_caret, List.getElem?_append_right (Nat.le_add_right _ _),
      Nat.add_sub_cancel_left, ← List.head?_drop]
    obtain ⟨tail, same⟩ := starts
    rw [← same, List.head?_append_of_ne_nil _ present]

/-- The caret points at the problem. The excerpt of a problem shows a line of the text, never a
question mark, with what the problem is about at its column, and the caret stands below the first
character of that. -/
theorem caret_points_at_problem (text filename : String) (limit : Nat) (problem : Problem)
    (member : problem ∈ (check text limit).problems) :
    ∃ place line, characterPlace? text.toList problem.offset = some place ∧
      (lines text.toList)[place.line]? = some line ∧
      problem.marked ≠ [] ∧ problem.marked <+: line.drop place.column ∧
      ∃ excerpt : Excerpt, excerpt.place = place ∧ excerpt.code = String.ofList line ∧
        full? filename text.toList problem = some (headline filename place problem ++ "\n\n" ++
          excerpt.topLine ++ "\n" ++ excerpt.codeLine ++ "\n" ++ excerpt.caretLine ++ "\n\n" ++
          problem.fault.explanation) ∧
        Points excerpt line problem.marked := by
  have anchored := anchored_of_mem_check member
  obtain ⟨place, line, placed, found, starts, unbroken⟩ := anchored.exists_line
  have present := anchored.marked.1
  refine ⟨place, line, placed, found, present, starts, ⟨place, String.ofList line⟩, rfl, rfl, ?_,
    points_of_prefix rfl unbroken present starts⟩
  have shown : Excerpt.ofPlace text.toList place = ⟨place, String.ofList line⟩ := by
    simp [Excerpt.ofPlace, found]
  simp [full?, placed, shown, Excerpt.render, String.append_assoc]

/-- A program with a carriage return, a control sequence of its own and a last line without end. -/
def colouredProgram : String :=
  "void go(n) \x7b\x7d\r\n\x1b[1m go();"

theorem caret_points_at_problem_colouredProgram :
    ⟨20, .missingParameter "go"⟩ ∈ (check colouredProgram 5).problems ∧
    characterPlace? colouredProgram.toList 20 = some ⟨1, 5⟩ ∧
    ∃ place line, characterPlace? colouredProgram.toList 20 = some place ∧
      (lines colouredProgram.toList)[place.line]? = some line ∧
      "go".toList ≠ [] ∧ "go".toList <+: line.drop place.column ∧
      ∃ excerpt : Excerpt, excerpt.place = place ∧ excerpt.code = String.ofList line ∧
        full? "a.k" colouredProgram.toList ⟨20, .missingParameter "go"⟩ =
          some (headline "a.k" place ⟨20, .missingParameter "go"⟩ ++ "\n\n" ++
            excerpt.topLine ++ "\n" ++ excerpt.codeLine ++ "\n" ++ excerpt.caretLine ++ "\n\n" ++
            (Fault.missingParameter "go").explanation) ∧
        Points excerpt line "go".toList := by
  have member : ⟨20, .missingParameter "go"⟩ ∈ (check colouredProgram 5).problems := by
    decide
  exact ⟨member, by decide, caret_points_at_problem colouredProgram "a.k" 5 _ member⟩

end Diagnosis

end KarelLint
