import KarelLint.Proofs.Diagnosis.Relocation
import KarelLint.Proofs.Source.Padding

/-! Reports of texts with marks around them. Marks before a text move all that is reported by their
length, and marks after it leave the report as it is. -/

set_option autoImplicit false

namespace KarelLint.Diagnosis

open KarelLint.Source

theorem relocates_marks_append {front : String} (marks : ∀ c ∈ front.toList, IsMark c)
    (text : String) : Relocates (· + front.utf8ByteSize) text (front ++ text) := by
  rw [← Text.byteLength_toList]
  constructor
  case characters =>
    rw [illegal, String.toList_append]
    exact illegalFrom_marks_append marks text.toList
  case declared =>
    rw [declarations, String.toList_append]
    exact declarationsFrom_marks_append marks text.toList
  case called =>
    rw [calls, calls, String.toList_append]
    exact callsFrom_marks_append marks text.toList
  case apart =>
    intro declaration _ call _ same
    exact Nat.add_right_cancel same

theorem check_append_trails {back : String} (trails : Trails back.toList) (text : String)
    (limit : Nat) : check (text ++ back) limit = check text limit := by
  have characters : characterProblems (text ++ back) = characterProblems text := by
    rw [characterProblems, characterProblems, illegal, illegal, String.toList_append,
      trails.illegalFrom_append]
  have declared : declarations (text ++ back) = declarations text := by
    rw [declarations, declarations, String.toList_append, trails.declarationsFrom_append]
  have called : calls (text ++ back) = calls text := by
    rw [calls, calls, String.toList_append, trails.callsFrom_append]
  simp only [check, characters, declared, called]

/-- A check does not depend on where the text starts. With marks before the text, it finds the same
procedures and the same problems, further on by the length of the marks. With marks after the text
that close no parenthesis, it finds the same at the same places. -/
theorem check_between_marks (text front back : String) (limit : Nat)
    (marks : ∀ c ∈ front.toList, IsMark c) (trails : Trails back.toList) :
    (∀ c, IsMark c ↔ Text.isBlank c = true ∨ c = '\uFEFF' ∨ c ∈ markSymbols) ∧
    check (front ++ text) limit = (check text limit).moved (· + front.utf8ByteSize) ∧
    check (text ++ back) limit = check text limit :=
  ⟨fun _ => isMark_iff, (relocates_marks_append marks text).check_eq limit,
    check_append_trails trails text limit⟩

/-- A program that ends in a parenthesis that is not closed. -/
def brokenProgram : String :=
  "void go(n) \x7b go(); void go jump("

/-- Marks of one and of three bytes. -/
def mixedMarks : String :=
  "\uFEFF/*(\r\n"

theorem check_between_marks_brokenProgram :
    (∀ c ∈ mixedMarks.toList, IsMark c) ∧ Trails mixedMarks.toList ∧
    (check brokenProgram 9).problems = [⟨24, .alreadyDefined "go"⟩, ⟨13, .missingParameter "go"⟩] ∧
    (check (mixedMarks ++ brokenProgram) 9).problems =
      [⟨32, .alreadyDefined "go"⟩, ⟨21, .missingParameter "go"⟩] ∧
    check (mixedMarks ++ brokenProgram) 9 =
      (check brokenProgram 9).moved (· + mixedMarks.utf8ByteSize) ∧
    check (brokenProgram ++ mixedMarks) 9 = check brokenProgram 9 := by
  have all : (mixedMarks.toList.all fun c => decide (IsMark c)) = true := by decide +kernel
  have marks : ∀ c ∈ mixedMarks.toList, IsMark c := by simpa using all
  have trails : Trails mixedMarks.toList := ⟨marks, by decide⟩
  exact ⟨marks, trails, by decide +kernel, by decide +kernel,
    (check_between_marks brokenProgram mixedMarks mixedMarks 9 marks trails).2⟩

end KarelLint.Diagnosis
