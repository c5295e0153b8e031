import KarelLint.CommandLine.Outcome
import KarelLint.Proofs.Diagnosis.CallVerdict
import KarelLint.Proofs.Source.Findings

/-! What the limit of a check does: it cuts the problems of each category short, and changes
nothing else. -/

set_option autoImplicit false

namespace KarelLint.Diagnosis

open KarelLint.Source

/-! ## All problems of a text -/

/-- All declarations of a text that its table does not take. -/
def rejectedDeclarations (text : String) : List Problem :=
  (tabulate (declarations text)).2

/-- All problems with the calls of a text. -/
def misusedCalls (text : String) : List Problem :=
  callProblems (declarations text) (calls text) (tabulate (declarations text)).1

theorem declarations_sublist (text : String) :
    ((declarations text).map (·.offset)).Sublist (Text.visibleFrom 0 text.toList) :=
  (search_declarationsFrom none 0 text.toList).sublist

theorem calls_sublist (text : String) :
    ((calls text).map (·.offset)).Sublist (Text.visibleFrom 0 text.toList) :=
  callsFrom_sublist none 0 text.toList

theorem enterAll_sublist (table : SymbolTable) (declarations : List Declaration) :
    ((enterAll table declarations).2.map (·.offset)).Sublist (declarations.map (·.offset)) := by
  induction declarations generalizing table with
  | nil => exact .slnil
  | cons declaration later ih =>
      cases rejected : rejection? table declaration with
      | none =>
          rw [enterAll_of_accepted rejected]
          exact (ih _).cons declaration.offset
      | some fault =>
          rw [enterAll_of_rejection rejected]
          exact (ih table).cons_cons declaration.offset

theorem offset_of_callProblem? {declarations : List Declaration} {table : SymbolTable}
    {call : Call} {problem : Problem}
    (found : callProblem? declarations table call = some problem) :
    problem.offset = call.offset := by
  unfold callProblem? at found
  split at found
  · cases found
  · obtain ⟨fault, _, rfl⟩ := Option.map_eq_some_iff.mp found
    rfl

theorem callProblems_sublist (declarations : List Declaration) (calls : List Call)
    (table : SymbolTable) :
    ((callProblems declarations calls table).map (·.offset)).Sublist (calls.map (·.offset)) := by
  unfold callProblems
  induction calls with
  | nil => exact .slnil
  | cons call later ih =>
      cases found : callProblem? declarations table call with
      | none =>
          rw [List.filterMap_cons_none found]
          exact ih.cons call.offset
      | some problem =>
          rw [List.filterMap_cons_some found, List.map_cons, offset_of_callProblem? found]
          exact ih.cons_cons call.offset

/-- Problems in the order of the places where they are found. -/
def Ascending (problems : List Problem) : Prop :=
  problems.Pairwise fun left right => left.offset < right.offset

theorem ascending_of_sublist {problems : List Problem} {text : List Char}
    (visible : (problems.map (·.offset)).Sublist (Text.visibleFrom 0 text)) :
    Ascending problems :=
  List.pairwise_map.mp ((Text.visibleFrom_ascending 0 text).sublist visible)

theorem ascending_characterProblems (text : String) : Ascending (characterProblems text) := by
  apply @ascending_of_sublist _ text.toList
  rw [characterProblems, List.map_map]
  exact illegalFrom_sublist 0 text.toList

theorem ascending_rejectedDeclarations (text : String) : Ascending (rejectedDeclarations text) :=
  ascending_of_sublist ((enterAll_sublist ∅ _).trans (declarations_sublist text))

theorem ascending_misusedCalls (text : String) : Ascending (misusedCalls text) :=
  ascending_of_sublist ((callProblems_sublist _ _ _).trans (calls_sublist text))

/-! ## Truncation -/

/-- What is left of the limit after the illegal characters goes to the rejected declarations. -/
theorem check_eq_take (text : String) (limit : Nat) :
    check text limit =
      { table := (tabulate (declarations text)).1
        problems :=
          (characterProblems text ++ rejectedDeclarations text).take limit ++
            (misusedCalls text).take limit } := by
  have shared : limit - ((characterProblems text).take limit).length =
      limit - (characterProblems text).length := by
    simp only [List.length_take]
    omega
  simp only [check, shared, List.take_append, rejectedDeclarations, misusedCalls]

theorem category_of_mem_first {text : String} {problem : Problem}
    (member : problem ∈ characterProblems text ++ rejectedDeclarations text) :
    problem.category = .declarations := by
  rcases List.mem_append.mp member with character | rejected
  · exact category_of_mem_characterProblems character
  · exact category_of_mem_enterAll rejected

/-- The problems of a report of one category. -/
def Report.ofCategory (report : Report) (category : Category) : List Problem :=
  report.problems.filter fun problem => problem.category = category

/-- All problems of a text of one category. -/
def allOfCategory (text : String) : Category → List Problem
  | .declarations => characterProblems text ++ rejectedDeclarations text
  | .calls => misusedCalls text

theorem ofCategory_check (text : String) (limit : Nat) (category : Category) :
    (check text limit).ofCategory category = (allOfCategory text category).take limit := by
  cases category with
  | calls => exact filter_calls_check text limit
  | declarations =>
      have kept : ((characterProblems text ++ rejectedDeclarations text).take limit).filter
          (fun problem => problem.category = .declarations) =
          (characterProblems text ++ rejectedDeclarations text).take limit := by
        apply List.filter_eq_self.mpr
        intro problem member
        simp [category_of_mem_first (List.mem_of_mem_take member)]
      have dropped : ((misusedCalls text).take limit).filter
          (fun problem => problem.category = .declarations) = [] := by
        apply List.filter_eq_nil_iff.mpr
        intro problem member
        simp [category_of_mem_callProblems (List.mem_of_mem_take member)]
      rw [Report.ofCategory, check_eq_take, List.filter_append, kept, dropped, List.append_nil]
      rfl

theorem problems_check_eq_nil_iff {text : String} {limit : Nat} (positive : 0 < limit) :
    (check text limit).problems = [] ↔
      characterProblems text ++ rejectedDeclarations text = [] ∧ misusedCalls text = [] := by
  have nonzero : limit ≠ 0 := by omega
  simp only [check_eq_take, List.append_eq_nil_iff, List.take_eq_nil_iff, nonzero, false_or]

theorem exit_ofCheck {read : String → Except Storage.ReadError ByteArray} {filename : String}
    {detail : Terminal.Detail} {first second : Nat} (left : 0 < first) (right : 0 < second) :
    (CommandLine.Outcome.ofCheck read ⟨filename, first, detail⟩).exit =
      (CommandLine.Outcome.ofCheck read ⟨filename, second, detail⟩).exit := by
  unfold CommandLine.Outcome.ofCheck
  dsimp only
  cases Storage.load read filename with
  | error error => rfl
  | ok text =>
      have same : (check text first).problems = [] ↔ (check text second).problems = [] := by
        rw [problems_check_eq_nil_iff left, problems_check_eq_nil_iff right]
      simp only [List.isEmpty_iff, same]

/-- The limit only truncates. The problems under a limit are the first ones with characters and
declarations and then the first ones with calls, and the table does not depend on the limit. A
smaller limit leaves the first problems of each category, and whether there is any problem is the
same for all limits but zero. -/
theorem check_truncates (text : String) (limit : Nat) :
    (Ascending (characterProblems text) ∧ Ascending (rejectedDeclarations text) ∧
      Ascending (misusedCalls text)) ∧
    (check text limit).problems =
      (characterProblems text ++ rejectedDeclarations text).take limit ++
        (misusedCalls text).take limit ∧
    (∀ problem ∈ (characterProblems text ++ rejectedDeclarations text).take limit,
      problem.category = .declarations) ∧
    (∀ problem ∈ (misusedCalls text).take limit, problem.category = .calls) ∧
    (∀ other, (check text other).table = (check text limit).table) ∧
    (∀ larger, limit ≤ larger → ∀ category, (check text limit).ofCategory category =
      ((check text larger).ofCategory category).take limit) ∧
    (∀ category, ((check text limit).ofCategory category).length ≤ limit) ∧
    (0 < limit → ∀ other, 0 < other →
      ((check text limit).problems = [] ↔ (check text other).problems = []) ∧
      ∀ read filename detail,
        (CommandLine.Outcome.ofCheck read ⟨filename, limit, detail⟩).exit =
          (CommandLine.Outcome.ofCheck read ⟨filename, other, detail⟩).exit) := by
  refine ⟨⟨ascending_characterProblems text, ascending_rejectedDeclarations text,
    ascending_misusedCalls text⟩, ?problems, ?first, ?second, ?table, ?smaller, ?bounded, ?empty⟩
  case problems => rw [check_eq_take]
  case first => exact fun problem member => category_of_mem_first (List.mem_of_mem_take member)
  case second =>
    exact fun problem member => category_of_mem_callProblems (List.mem_of_mem_take member)
  case table =>
    intro other
    rw [check_eq_take, check_eq_take]
  case smaller =>
    intro larger le category
    rw [ofCategory_check, ofCategory_check, List.take_take, Nat.min_eq_left le]
  case bounded =>
    intro category
    rw [ofCategory_check]
    exact List.length_take_le _ _
  case empty =>
    intro positive other otherPositive
    refine ⟨?_, fun read filename detail => exit_ofCheck positive otherPositive⟩
    rw [problems_check_eq_nil_iff positive, problems_check_eq_nil_iff otherPositive]

end KarelLint.Diagnosis
