import Mathlib.Algebra.Group.Nat.Defs
import Mathlib.Data.List.Forall2
import KarelLint.Proofs.Diagnosis.Anchors
import KarelLint.Proofs.Text.Lines

/-! A terminal and an editor show the same problems at the same places. Both places are counted along
the line of the problem, so they differ by the wide characters before it, and the name of a problem
lies on one line and takes one unit for each of its characters. -/

set_option autoImplicit false

namespace KarelLint

/-! ## Ranges in messages -/

namespace Session

open Text

/-- A place whose counts a message can hold. -/
def FitsMessage (place : Place) : Prop :=
  place.line < 2 ^ 32 ∧ place.column < 2 ^ 32

theorem nat32?_int {count : Nat} (small : count < 2 ^ 32) :
    (Json.int count).nat32? = some count := by
  have within : (0 : Int) ≤ count ∧ (count : Int) ≤ 4294967295 := by omega
  simp [Json.nat32?, Json.intWithin?, within]

theorem Range.place?_placeJson {place : Place} (fits : FitsMessage place) :
    Range.place? (Range.placeJson place) = some place := by
  simp [Range.place?, Range.placeJson, Json.record?, Json.extended?, Json.required?,
    nat32?_int fits.1, nat32?_int fits.2, List.lookup_cons]

/-- An editor reads the range that was written. -/
theorem Range.ofJson?_toJson {range : Range} (first : FitsMessage range.start)
    (last : FitsMessage range.stop) : Range.ofJson? range.toJson = some range := by
  simp [Range.ofJson?, Range.toJson, Json.record?, Json.extended?, Json.required?,
    place?_placeJson first, place?_placeJson last, List.lookup_cons]

end Session

/-! ## One problem -/

namespace Diagnosis

open KarelLint.Source KarelLint.Text KarelLint.Session

/-- What an editor and a terminal show of a problem. The problem lies on a line after the characters
`start`, and the terminal prints the numbers of that line and of the next character, counted from
one. -/
structure ShownAlike (text filename : String) (uri : Uri) (related : Bool) (problem : Problem)
    (diagnostic : Diagnostic) (complaint : String) (line : Nat) (start : List Char) : Prop where
  placed : ∃ earlier after, OnLine text.toList problem.offset earlier start after ∧
    line = lineFeeds earlier
  complaint : complaint = Terminal.label ++ ": " ++ filename ++ ":" ++ toString (line + 1) ++ ":" ++
    toString (start.length + 1) ++ " " ++ Terminal.bold problem.message
  message : diagnostic.message = problem.message
  first : diagnostic.range.start = ⟨line, start.length + start.countP isWide⟩
  last : diagnostic.range.stop = ⟨line, start.length + start.countP isWide + problem.width⟩
  width : problem.width = (problem.fault.name?.map String.length).getD 0
  sentRange : ((ServerMessage.diagnosticJson uri related diagnostic).member? "range").bind
    Range.ofJson? = some diagnostic.range
  sentMessage : ((ServerMessage.diagnosticJson uri related diagnostic).member? "message").bind
    Json.str? = some problem.message

namespace Anchored

variable {text : List Char} {problem : Problem}

/-- The name of a problem stands on the line of the problem and takes one byte and one unit for each
character. -/
theorem exists_name (anchored : Anchored text problem) :
    ∃ name : List Char, problem.width = name.length ∧ byteLength name = name.length ∧
      name.countP isWide = 0 ∧ '\n' ∉ name ∧
      name.length = (problem.fault.name?.map String.length).getD 0 ∧
      ∀ earlier start after, OnLine text problem.offset earlier start after →
        ∃ rest, after = name ++ rest := by
  cases named : problem.fault.name? with
  | none =>
      refine ⟨[], ?_, rfl, rfl, by simp, rfl, fun _ _ after _ => ⟨after, rfl⟩⟩
      simp [Problem.width, named]
  | some found =>
      have notCharacter : ∀ c, problem.fault ≠ .illegalCharacter c := by
        intro c same
        rw [same] at named
        cases named
      obtain ⟨name, same, _, slice, identifier⟩ := anchored.name notCharacter
      obtain rfl : found = name := Option.some.inj (named.symm.trans same)
      have bytes := byteLength_of_parts identifier.parts
      have width : problem.width = byteLength found.toList := by simp [Problem.width, named]
      refine ⟨found.toList, width.trans bytes, bytes, countP_isWide_of_parts identifier.parts,
        lineFeed_not_mem_of_parts identifier.parts, String.length_toList, ?_⟩
      intro earlier start after line
      rw [width] at slice
      exact line.exists_rest (StandsAt.of_slice? slice)

/-- A problem is shown alike in an editor and on a terminal. -/
theorem shownAlike {text : String} {problem : Problem} (anchored : Anchored text.toList problem)
    (small : text.utf8ByteSize < 2 ^ 32) (filename : String) (uri : Uri) (related : Bool) :
    ∃ diagnostic complaint line start,
      Diagnostic.ofProblem? text.toList problem = some diagnostic ∧
      Terminal.concise? filename text.toList problem = some complaint ∧
      ShownAlike text filename uri related problem diagnostic complaint line start := by
  obtain ⟨earlier, start, after, line⟩ := exists_onLine anchored.start
  obtain ⟨name, width, bytes, narrow, unbroken, named, follows⟩ := anchored.exists_name
  obtain ⟨rest, rfl⟩ := follows earlier start after line
  have stop := line.advance unbroken
  have first := line.unitPlace?
  have last := stop.unitPlace?
  rw [bytes, ← width] at last
  have units : (start ++ name).length + (start ++ name).countP isWide =
      start.length + start.countP isWide + problem.width := by
    rw [List.length_append, List.countP_append, narrow, width]
    omega
  rw [units] at last
  have bounds := line.bounded
  have stopBounds := stop.bounded
  rw [units] at stopBounds
  rw [byteLength_toList] at bounds stopBounds
  let range : Range := ⟨⟨lineFeeds earlier, start.length + start.countP isWide⟩,
    ⟨lineFeeds earlier, start.length + start.countP isWide + problem.width⟩⟩
  have written : Range.ofJson? range.toJson = some range := by
    apply Range.ofJson?_toJson
    · exact ⟨by simp only [range]; omega, by simp only [range]; omega⟩
    · exact ⟨by simp only [range]; omega, by simp only [range]; omega⟩
  refine ⟨⟨range, problem.message⟩, Terminal.headline filename ⟨lineFeeds earlier, start.length⟩ problem,
    lineFeeds earlier, start, ?diagnostic, ?complaint, ?alike⟩
  case diagnostic => simp [Diagnostic.ofProblem?, Diagnostic.range?, first, last, range]
  case complaint => simp [Terminal.concise?, line.characterPlace?]
  case alike =>
    constructor
    case placed => exact ⟨earlier, name ++ rest, line, rfl⟩
    case complaint => rfl
    case message => rfl
    case first => rfl
    case last => rfl
    case width => exact width.trans named
    case sentRange => exact written
    case sentMessage => rfl

end Anchored

/-! ## All problems of a text -/

theorem forall₂_zip_filterMap {α β γ : Type} {relates : α → β → γ → Prop} {left : α → Option β}
    {right : α → Option γ} {items : List α}
    (total : ∀ item ∈ items, ∃ first second, left item = some first ∧ right item = some second ∧
      relates item first second) :
    (items.filterMap left).length = items.length ∧
      (items.filterMap right).length = items.length ∧
      List.Forall₂ (fun item shown => relates item shown.1 shown.2) items
        ((items.filterMap left).zip (items.filterMap right)) := by
  induction items with
  | nil => exact ⟨rfl, rfl, .nil⟩
  | cons item items ih =>
      obtain ⟨first, second, isFirst, isSecond, related⟩ := total item List.mem_cons_self
      obtain ⟨lefts, rights, rest⟩ := ih fun other member =>
        total other (List.mem_cons_of_mem _ member)
      rw [List.filterMap_cons_some isFirst, List.filterMap_cons_some isSecond]
      exact ⟨congrArg (· + 1) lefts, congrArg (· + 1) rights, .cons related rest⟩

/-- An editor and a terminal show the problems of a text one by one in the same order, with the same
messages. The range in the editor starts on the printed line, further to the right than the printed
column by the number of wide characters before it, and spans the name of the problem. -/
theorem editor_agrees_with_terminal (text filename : String) (uri : Uri) (related : Bool)
    (limit : Nat) (small : text.utf8ByteSize < 2 ^ 32) :
    (Diagnostic.ofProblems text (check text limit).problems).length =
      (check text limit).problems.length ∧
    (CommandLine.Outcome.complaints .concise filename text (check text limit).problems).length =
      (check text limit).problems.length ∧
    List.Forall₂
      (fun problem shown => ∃ line start,
        ShownAlike text filename uri related problem shown.1 shown.2 line start)
      (check text limit).problems
      ((Diagnostic.ofProblems text (check text limit).problems).zip
        (CommandLine.Outcome.complaints .concise filename text (check text limit).problems)) := by
  refine @forall₂_zip_filterMap _ _ _ (fun problem diagnostic complaint => ∃ line start,
    ShownAlike text filename uri related problem diagnostic complaint line start) _ _ _ ?_
  intro problem member
  obtain ⟨diagnostic, complaint, line, start, isDiagnostic, isComplaint, alike⟩ :=
    (anchored_of_mem_check member).shownAlike small filename uri related
  exact ⟨diagnostic, complaint, isDiagnostic, isComplaint, line, start, alike⟩

/-- A program with a wide character before a problem. -/
def wideProgram : String :=
  "void go(n) \x7b\x7d\n/*😀*/ go();"

/-- The reference of a document with a program. -/
def programUri : Uri :=
  ⟨"file:///a.k", by decide +kernel⟩

theorem editor_agrees_with_terminal_wideProgram :
    wideProgram.utf8ByteSize < 2 ^ 32 ∧
    (check wideProgram 9).problems =
      [⟨16, .illegalCharacter '😀'⟩, ⟨23, .missingParameter "go"⟩] ∧
    CommandLine.Outcome.complaints .concise "a.k" wideProgram (check wideProgram 9).problems =
      ["\x1b[91merror\x1b[39m: a.k:2:3 \x1b[1mIllegal character '😀'\x1b[0m",
        "\x1b[91merror\x1b[39m: a.k:2:7 \x1b[1mProcedure 'go' expects a parameter\x1b[0m"] ∧
    (Diagnostic.ofProblems wideProgram (check wideProgram 9).problems).map (·.range) =
      [⟨⟨1, 2⟩, ⟨1, 2⟩⟩, ⟨⟨1, 7⟩, ⟨1, 9⟩⟩] ∧
    List.Forall₂
      (fun problem shown => ∃ line start,
        ShownAlike wideProgram "a.k" programUri true problem shown.1 shown.2 line start)
      (check wideProgram 9).problems
      ((Diagnostic.ofProblems wideProgram (check wideProgram 9).problems).zip
        (CommandLine.Outcome.complaints .concise "a.k" wideProgram
          (check wideProgram 9).problems)) := by
  have small : wideProgram.utf8ByteSize < 2 ^ 32 := by decide
  exact ⟨small, by decide +kernel, by decide +kernel, by decide +kernel,
    (editor_agrees_with_terminal wideProgram "a.k" programUri true 9 small).2.2⟩

end Diagnosis

end KarelLint
