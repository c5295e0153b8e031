import KarelLint.Proofs.Source.Layout
import KarelLint.Proofs.Terminal.Excerpts

/-! Complaints of one line. A message holds a character or a name of the program as it stands there.
Line breaks are white space, so they are neither illegal characters nor parts of names, and no
complaint breaks a line. -/

set_option autoImplicit false

namespace KarelLint

/-! ## Line breaks -/

namespace Text

/-- The characters at which a line may end: line feed, vertical tab, form feed, carriage return, next
line, and the two separators. -/
def lineBreakIntervals : List Interval :=
  [⟨0xA, 0xD⟩, ⟨0x85, 0x85⟩, ⟨0x2028, 0x2029⟩]

def isLineBreak (c : Char) : Bool :=
  covers lineBreakIntervals c.toNat

/-- A text that stays on one line. -/
def Unbroken (text : List Char) : Prop :=
  text.any isLineBreak = false

instance : DecidablePred Unbroken :=
  fun text => inferInstanceAs (Decidable (text.any isLineBreak = false))

theorem unbroken_append {left right : List Char} :
    Unbroken (left ++ right) ↔ Unbroken left ∧ Unbroken right := by
  rw [Unbroken, List.any_append, Bool.or_eq_false_iff]
  rfl

theorem isBlank_of_isLineBreak {c : Char} (ends : isLineBreak c = true) : isBlank c = true := by
  have all : ((points lineBreakIntervals).all fun point => covers blankIntervals point) = true := by
    decide
  exact List.all_eq_true.mp all _ (mem_points_of_covers ends)

theorem unbroken_of_visible {text : List Char} (visible : ∀ c ∈ text, isBlank c = false) :
    Unbroken text := by
  refine List.any_eq_false.mpr fun c member ends => ?_
  have blank := isBlank_of_isLineBreak ends
  rw [visible c member] at blank
  cases blank

theorem unbroken_toString (number : Nat) : Unbroken (toString number).toList := by
  have digits : (toString number).toList = Nat.toDigits 10 number := String.toList_ofList
  rw [digits]
  refine unbroken_of_visible fun c member => ?_
  have digit := Nat.isDigit_of_mem_toDigits (by decide) (by decide) member
  exact isBlank_of_isIdentifierPart (by simp [isIdentifierPart, Char.isAlphanum, digit])

/-- Lines that are written with a line feed after each are read back. -/
theorem lines_flatMap {written : List (List Char)} (unbroken : ∀ line ∈ written, Unbroken line) :
    lines (written.flatMap (· ++ ['\n'])) = written := by
  induction written with
  | nil => rfl
  | cons line written ih =>
      obtain ⟨here, later⟩ := List.forall_mem_cons.mp unbroken
      have absent {c : Char} (ends : isLineBreak c = true) : c ∉ line :=
        fun member => List.any_eq_false.mp here c member ends
      have whole : withoutEnd line = line := by
        rcases withoutEnd_cases line with same | cut
        · exact same
        · have last : '\r' ∈ line := by
            rw [cut]
            exact List.mem_append_right _ (List.mem_singleton_self _)
          exact absurd last (absent (by decide))
      have onward := ih later
      rw [lines] at onward ⊢
      rw [List.flatMap_cons, List.append_assoc, scan_append_of_unbroken (absent (by decide)),
        List.append_nil, List.singleton_append, lines.scan, if_pos rfl, onward]
      exact congrArg (· :: written) whole

theorem countP_isLineBreak_flatMap {written : List (List Char)}
    (unbroken : ∀ line ∈ written, Unbroken line) :
    (written.flatMap (· ++ ['\n'])).countP isLineBreak = written.length := by
  induction written with
  | nil => rfl
  | cons line written ih =>
      obtain ⟨here, later⟩ := List.forall_mem_cons.mp unbroken
      have none : line.countP isLineBreak = 0 := List.countP_eq_zero.mpr (List.any_eq_false.mp here)
      have feed : ['\n'].countP isLineBreak = 1 := by decide
      rw [List.flatMap_cons, List.countP_append, List.countP_append, none, feed, ih later,
        List.length_cons, Nat.zero_add, Nat.add_comm]

end Text

/-! ## Complaints -/

namespace Diagnosis

open Source Text

/-- The message of a problem is what it is about, between texts without line breaks. -/
theorem Problem.exists_message (problem : Problem) :
    ∃ before after, problem.message.toList = before ++ (problem.marked ++ after) ∧
      Unbroken before ∧ Unbroken after := by
  have framed {before about after : String} (written : problem.message = before ++ about ++ after)
      (marked : about.toList = problem.marked) (first : Unbroken before.toList)
      (last : Unbroken after.toList) : ∃ before after,
        problem.message.toList = before ++ (problem.marked ++ after) ∧
          Unbroken before ∧ Unbroken after := by
    refine ⟨before.toList, after.toList, ?_, first, last⟩
    rw [written, String.toList_append, String.toList_append, marked, List.append_assoc]
  obtain ⟨offset, fault⟩ := problem
  cases fault with
  | illegalCharacter c =>
      exact framed rfl (String.toList_singleton c) (by decide) (by decide)
  | alreadyDefined name | reservedWord name | unexpectedParameter name | missingParameter name
  | instructionParameter name | tooManyParameters name | undeclared name =>
      exact framed rfl rfl (by decide) (by decide)

theorem Anchored.unbroken {text : List Char} {problem : Problem} (anchored : Anchored text problem) :
    Unbroken problem.marked := by
  apply unbroken_of_visible
  by_cases character : ∃ c, problem.fault = .illegalCharacter c
  · obtain ⟨c, same⟩ := character
    have mark : problem.marked = [c] := by simp [Problem.marked, same]
    rw [mark]
    intro d member
    rw [List.mem_singleton.mp member]
    exact isBlank_of_not_isLegal (anchored.character c same).2
  · obtain ⟨name, named, _, _, identifier⟩ := anchored.name fun c same => character ⟨c, same⟩
    rw [marked_of_name named]
    exact identifier.visible

end Diagnosis

namespace Terminal

open Diagnosis Text

/-- A complaint shows what its problem is about as it stands in the program, on one line. -/
theorem headline_unbroken {filename : String} {problem : Problem}
    (named : Unbroken filename.toList) (marked : Unbroken problem.marked) (place : Place) :
    problem.marked <:+: (headline filename place problem).toList ∧
      Unbroken (headline filename place problem).toList := by
  obtain ⟨before, after, message, first, last⟩ := problem.exists_message
  let opening := label ++ ": " ++ filename ++ ":" ++ toString (place.line + 1) ++ ":" ++
    toString (place.column + 1) ++ " " ++ "\x1b[1m"
  have written : (headline filename place problem).toList =
      opening.toList ++ before ++ problem.marked ++ (after ++ "\x1b[0m".toList) := by
    simp [opening, headline, bold, styled, message]
  have opens : Unbroken opening.toList := by
    simp only [opening, String.toList_append, unbroken_append, named, unbroken_toString,
      and_true]
    decide
  rw [written]
  refine ⟨List.infix_append _ _ _, ?_⟩
  have closes : Unbroken "\x1b[0m".toList := by decide
  exact unbroken_append.mpr ⟨unbroken_append.mpr ⟨unbroken_append.mpr ⟨opens, first⟩, marked⟩,
    unbroken_append.mpr ⟨last, closes⟩⟩

theorem exists_concise {text filename : String} {limit : Nat} {problem : Problem}
    (named : Unbroken filename.toList) (member : problem ∈ (check text limit).problems) :
    ∃ line, concise? filename text.toList problem = some line ∧
      problem.marked <:+: line.toList ∧ Unbroken line.toList := by
  have anchored := anchored_of_mem_check member
  obtain ⟨place, placed⟩ := Option.isSome_iff_exists.mp anchored.showable.place
  refine ⟨headline filename place problem, ?_, headline_unbroken named anchored.unbroken place⟩
  rw [concise?, placed]
  rfl

end Terminal

namespace CommandLine

open Diagnosis Terminal Text

theorem Outcome.toList_output {read : String → Except Storage.ReadError ByteArray}
    {filename text : String} (loaded : Storage.load read filename = .ok text) (limit : Nat) :
    (ofCheck read ⟨filename, limit, .concise⟩).output.toList =
      ((complaints .concise filename text (check text limit).problems).map String.toList).flatMap
        (· ++ ['\n']) := by
  simp [ofCheck, loaded, ending, String.toList_join, List.flatMap_map]

theorem Outcome.map_some_complaints {text filename : String} {limit : Nat}
    (named : Unbroken filename.toList) :
    (complaints .concise filename text (check text limit).problems).map some =
      (check text limit).problems.map (concise? filename text.toList) := by
  have present : ∀ complaint ∈ (check text limit).problems.map (concise? filename text.toList),
      complaint.isSome = true := by
    intro complaint member
    obtain ⟨problem, found, rfl⟩ := List.mem_map.mp member
    obtain ⟨line, complained, _⟩ := exists_concise named found
    exact Option.isSome_of_eq_some complained
  rw [← List.filter_eq_self.mpr present]
  exact List.map_filterMap_some_eq_filter_map_isSome

/-- A check with concise complaints writes one line for each problem, in order. Each line shows what
its problem is about as it stands in the program. -/
theorem concise_output_by_lines (text filename : String) (limit : Nat)
    (named : Unbroken filename.toList) :
    (∀ problem ∈ (check text limit).problems, ∃ line,
      concise? filename text.toList problem = some line ∧ problem.marked <:+: line.toList ∧
        Unbroken line.toList) ∧
    ∀ read, Storage.load read filename = .ok text →
      (lines (Outcome.ofCheck read ⟨filename, limit, .concise⟩).output.toList).map
          (fun line => some (String.ofList line)) =
        (check text limit).problems.map (concise? filename text.toList) ∧
      (lines (Outcome.ofCheck read ⟨filename, limit, .concise⟩).output.toList).length =
        (check text limit).problems.length ∧
      (Outcome.ofCheck read ⟨filename, limit, .concise⟩).output.toList.countP isLineBreak =
        (check text limit).problems.length := by
  refine ⟨fun problem member => exists_concise named member, fun read loaded => ?_⟩
  let written := Outcome.complaints .concise filename text (check text limit).problems
  have all : written.map some = (check text limit).problems.map (concise? filename text.toList) :=
    Outcome.map_some_complaints named
  have count : written.length = (check text limit).problems.length := by
    simpa using congrArg List.length all
  have unbroken : ∀ line ∈ written.map String.toList, Unbroken line := by
    intro line member
    obtain ⟨complaint, listed, rfl⟩ := List.mem_map.mp member
    obtain ⟨problem, found, same⟩ := List.mem_filterMap.mp listed
    obtain ⟨line, complained, _, clear⟩ := exists_concise named found
    cases complained.symm.trans same
    exact clear
  rw [Outcome.toList_output loaded, lines_flatMap unbroken, countP_isLineBreak_flatMap unbroken,
    List.length_map, ← all, List.map_map]
  refine ⟨?_, count, count⟩
  refine List.map_congr_left fun line _ => ?_
  exact congrArg some String.ofList_toList

/-- A program with two problems and a line separator between them. -/
def separatedProgram : String :=
  "go();\u2028é"

theorem concise_output_by_lines_separatedProgram :
    Unbroken "a.k".toList ∧
    Storage.load (fun _ => .ok separatedProgram.toUTF8) "a.k" = .ok separatedProgram ∧
    (check separatedProgram 5).problems = [⟨8, .illegalCharacter 'é'⟩, ⟨0, .undeclared "go"⟩] ∧
    (lines (Outcome.ofCheck (fun _ => .ok separatedProgram.toUTF8)
        ⟨"a.k", 5, .concise⟩).output.toList).map (fun line => some (String.ofList line)) =
      (check separatedProgram 5).problems.map (concise? "a.k" separatedProgram.toList) ∧
    (lines (Outcome.ofCheck (fun _ => .ok separatedProgram.toUTF8)
        ⟨"a.k", 5, .concise⟩).output.toList).length = (check separatedProgram 5).problems.length ∧
    (Outcome.ofCheck (fun _ => .ok separatedProgram.toUTF8)
        ⟨"a.k", 5, .concise⟩).output.toList.countP isLineBreak =
      (check separatedProgram 5).problems.length := by
  have named : Unbroken "a.k".toList := by decide
  have loaded : Storage.load (fun _ => .ok separatedProgram.toUTF8) "a.k" =
      .ok separatedProgram := by
    decide
  exact ⟨named, loaded, by decide +kernel,
    (concise_output_by_lines separatedProgram "a.k" 5 named).2 _ loaded⟩

end CommandLine

end KarelLint
