import Mathlib.Logic.ExistsUnique
import KarelLint.Proofs.Diagnosis.Tabulation
import KarelLint.Proofs.Source.Parentheses

/-! What the problems with the calls of a program mean. A name stands for a procedure, an
instruction, a keyword or nothing, and whether a call of it is a problem depends on that and on
the arguments alone. -/

set_option autoImplicit false

namespace KarelLint.Diagnosis

open KarelLint.Source

/-! ## Names -/

/-- What a name can stand for. -/
inductive Meaning where
  | procedure (declaration : Declaration)
  | instruction
  | keyword
  | unknown

/-- What a name stands for among some declarations. The first declaration of a name decides,
wherever in the program it stands. -/
inductive Means (declarations : List Declaration) (name : String) : Meaning → Prop where
  | procedure {earlier later : List Declaration} {declaration : Declaration} :
      isReserved name = false → declarations = earlier ++ declaration :: later →
      declaration.name = name → (∀ other ∈ earlier, other.name ≠ name) →
      Means declarations name (.procedure declaration)
  | instruction : isInstruction name = true → Means declarations name .instruction
  | keyword : isKeyword name = true → Means declarations name .keyword
  | unknown : isReserved name = false → (∀ declaration ∈ declarations, declaration.name ≠ name) →
      Means declarations name .unknown

theorem isKeyword_of_isInstruction {name : String} (instruction : isInstruction name = true) :
    isKeyword name = false := by
  have disjoint : ∀ word ∈ instructions, isKeyword word = false := by decide
  exact disjoint name (List.contains_iff_mem.mp instruction)

theorem isReserved_of_isInstruction {name : String} (instruction : isInstruction name = true) :
    isReserved name = true := by
  rw [isReserved, instruction, Bool.true_or]

theorem isReserved_of_isKeyword {name : String} (keyword : isKeyword name = true) :
    isReserved name = true := by
  rw [isReserved, keyword, Bool.or_true]

theorem Means.procedure_of_find? {declarations : List Declaration} {name : String}
    {declaration : Declaration} (allowed : isReserved name = false)
    (found : (declarations.find? fun other => other.name == name) = some declaration) :
    Means declarations name (.procedure declaration) := by
  obtain ⟨same, earlier, later, split, different⟩ := List.find?_eq_some_iff_append.mp found
  refine .procedure allowed split (eq_of_beq same) ?_
  intro other member
  simpa using different other member

theorem Means.find?_eq_some {declarations : List Declaration} {name : String}
    {declaration : Declaration} (means : Means declarations name (.procedure declaration)) :
    (declarations.find? fun other => other.name == name) = some declaration := by
  cases means with
  | @procedure earlier later _ _ split same different =>
      apply List.find?_eq_some_iff_append.mpr
      refine ⟨beq_iff_eq.mpr same, earlier, later, split, ?_⟩
      intro other member
      simpa using different other member

theorem Means.unknown_of_find? {declarations : List Declaration} {name : String}
    (allowed : isReserved name = false)
    (missing : (declarations.find? fun other => other.name == name) = none) :
    Means declarations name .unknown := by
  refine .unknown allowed ?_
  intro declaration member
  simpa using List.find?_eq_none.mp missing declaration member

theorem means_exists (declarations : List Declaration) (name : String) :
    ∃ meaning, Means declarations name meaning := by
  cases reserved : isReserved name with
  | true =>
      rcases Bool.or_eq_true_iff.mp reserved with instruction | keyword
      · exact ⟨_, .instruction instruction⟩
      · exact ⟨_, .keyword keyword⟩
  | false =>
      cases found : declarations.find? fun other => other.name == name with
      | some declaration => exact ⟨_, .procedure_of_find? reserved found⟩
      | none => exact ⟨_, .unknown_of_find? reserved found⟩

theorem means_unique {declarations : List Declaration} {name : String} {left right : Meaning}
    (leftMeans : Means declarations name left) (rightMeans : Means declarations name right) :
    left = right := by
  -- A name that is an instruction or a keyword is reserved, and the others are not.
  have unreserved {meaning : Meaning} (means : Means declarations name meaning)
      (allowed : isReserved name = false) : meaning ≠ .instruction ∧ meaning ≠ .keyword := by
    cases means with
    | procedure => exact ⟨Meaning.noConfusion, Meaning.noConfusion⟩
    | unknown => exact ⟨Meaning.noConfusion, Meaning.noConfusion⟩
    | instruction instruction =>
        rw [isReserved_of_isInstruction instruction] at allowed
        cases allowed
    | keyword keyword =>
        rw [isReserved_of_isKeyword keyword] at allowed
        cases allowed
  cases leftMeans with
  | instruction instruction =>
      cases rightMeans with
      | instruction => rfl
      | keyword keyword =>
          rw [isKeyword_of_isInstruction instruction] at keyword
          cases keyword
      | procedure allowed => exact absurd rfl (unreserved (.instruction instruction) allowed).1
      | unknown allowed => exact absurd rfl (unreserved (.instruction instruction) allowed).1
  | keyword keyword =>
      cases rightMeans with
      | keyword => rfl
      | instruction instruction =>
          rw [isKeyword_of_isInstruction instruction] at keyword
          cases keyword
      | procedure allowed => exact absurd rfl (unreserved (.keyword keyword) allowed).2
      | unknown allowed => exact absurd rfl (unreserved (.keyword keyword) allowed).2
  | @procedure _ _ declaration allowed split same different =>
      have first := (Means.procedure allowed split same different).find?_eq_some
      cases other : right with
      | procedure second =>
          subst other
          rw [rightMeans.find?_eq_some] at first
          rw [Option.some.inj first]
      | instruction => exact absurd other (unreserved rightMeans allowed).1
      | keyword => exact absurd other (unreserved rightMeans allowed).2
      | unknown =>
          subst other
          cases rightMeans with
          | unknown _ missing =>
              have member : declaration ∈ declarations := List.mem_of_find?_eq_some first
              exact absurd same (missing declaration member)
  | unknown allowed missing =>
      cases other : right with
      | unknown => rfl
      | instruction => exact absurd other (unreserved rightMeans allowed).1
      | keyword => exact absurd other (unreserved rightMeans allowed).2
      | procedure declaration =>
          subst other
          have first := rightMeans.find?_eq_some
          have same := List.find?_some first
          exact absurd (eq_of_beq same) (missing declaration (List.mem_of_find?_eq_some first))

/-! ## Calls -/

/-- Arguments of white space only. -/
def IsBlank (arguments : List Char) : Prop :=
  ∀ char ∈ arguments, Text.isBlank char = true

theorem isBlank_nil : IsBlank [] :=
  fun _ member => absurd member List.not_mem_nil

/-- What is wrong with a call of a name that stands for something. It depends on the name and
the arguments alone. -/
inductive Verdict (name : String) (arguments : List Char) : Meaning → Option Fault → Prop where
  | unexpected {declaration : Declaration} : declaration.parameter = none → ¬ IsBlank arguments →
      Verdict name arguments (.procedure declaration) (some (.unexpectedParameter name))
  | plain {declaration : Declaration} : declaration.parameter = none → IsBlank arguments →
      Verdict name arguments (.procedure declaration) none
  | missing {declaration : Declaration} : declaration.parameter ≠ none → IsBlank arguments →
      Verdict name arguments (.procedure declaration) (some (.missingParameter name))
  | several {declaration : Declaration} : declaration.parameter ≠ none → IsDivided arguments →
      Verdict name arguments (.procedure declaration) (some (.tooManyParameters name))
  | single {declaration : Declaration} : declaration.parameter ≠ none → ¬ IsBlank arguments →
      ¬ IsDivided arguments → Verdict name arguments (.procedure declaration) none
  | burdened : ¬ IsBlank arguments →
      Verdict name arguments .instruction (some (.instructionParameter name))
  | bare : IsBlank arguments → Verdict name arguments .instruction none
  | keyword : Verdict name arguments .keyword none
  | undeclared : Verdict name arguments .unknown (some (.undeclared name))

theorem not_isBlank_of_isDivided {arguments : List Char} (divided : IsDivided arguments) :
    ¬ IsBlank arguments := by
  obtain ⟨first, rest, rfl, _⟩ := divided
  intro blank
  have comma : Text.isBlank ',' = true := blank ',' (by simp)
  revert comma
  decide

theorem verdict_unique {name : String} {arguments : List Char} {meaning : Meaning}
    {left right : Option Fault} (leftVerdict : Verdict name arguments meaning left)
    (rightVerdict : Verdict name arguments meaning right) : left = right := by
  have exclusive : IsDivided arguments → ¬ IsBlank arguments := not_isBlank_of_isDivided
  cases leftVerdict <;> cases rightVerdict <;> first | rfl | grind

theorem name?_of_verdict {name : String} {arguments : List Char} {meaning : Meaning}
    {fault : Fault} (verdict : Verdict name arguments meaning (some fault)) :
    fault.name? = some name ∧ fault.category = .calls := by
  cases verdict <;> exact ⟨rfl, rfl⟩

/-- What reads as a call and is the parameter list of a declaration. -/
def IsHeading (declarations : List Declaration) (call : Call) : Prop :=
  ∃ declaration ∈ declarations,
    declaration.parenthesized = true ∧ declaration.offset = call.offset

/-- What is wrong with a call among some declarations: nothing if it is the parameter list of
one of them, and otherwise what follows from the meaning of its name. -/
inductive Judged (declarations : List Declaration) (call : Call) : Option Fault → Prop where
  | heading : IsHeading declarations call → Judged declarations call none
  | named {meaning : Meaning} {fault : Option Fault} : ¬ IsHeading declarations call →
      Means declarations call.name meaning →
      Verdict call.name call.arguments.toList meaning fault → Judged declarations call fault

theorem judged_unique {declarations : List Declaration} {call : Call}
    {left right : Option Fault} (leftJudged : Judged declarations call left)
    (rightJudged : Judged declarations call right) : left = right := by
  cases leftJudged with
  | heading heading =>
      cases rightJudged with
      | heading => rfl
      | named ordinary => exact absurd heading ordinary
  | named ordinary leftMeans leftVerdict =>
      cases rightJudged with
      | heading heading => exact absurd heading ordinary
      | named _ rightMeans rightVerdict =>
          cases means_unique leftMeans rightMeans
          exact verdict_unique leftVerdict rightVerdict

theorem verdict_exists (name : String) (arguments : List Char) (meaning : Meaning) :
    ∃ fault, Verdict name arguments meaning fault := by
  cases meaning with
  | keyword => exact ⟨_, .keyword⟩
  | unknown => exact ⟨_, .undeclared⟩
  | instruction =>
      by_cases blank : IsBlank arguments
      · exact ⟨_, .bare blank⟩
      · exact ⟨_, .burdened blank⟩
  | procedure declaration =>
      by_cases nullary : declaration.parameter = none
      · by_cases blank : IsBlank arguments
        · exact ⟨_, .plain nullary blank⟩
        · exact ⟨_, .unexpected nullary blank⟩
      · by_cases blank : IsBlank arguments
        · exact ⟨_, .missing nullary blank⟩
        · by_cases divided : IsDivided arguments
          · exact ⟨_, .several nullary divided⟩
          · exact ⟨_, .single nullary blank divided⟩

theorem judged_exists (declarations : List Declaration) (call : Call) :
    ∃ fault, Judged declarations call fault := by
  by_cases heading : IsHeading declarations call
  · exact ⟨_, .heading heading⟩
  · obtain ⟨meaning, means⟩ := means_exists declarations call.name
    obtain ⟨fault, verdict⟩ := verdict_exists call.name call.arguments.toList meaning
    exact ⟨fault, .named heading means verdict⟩

/-! ## The check of the calls -/

theorem hasArguments_iff {call : Call} :
    call.hasArguments = true ↔ ¬ IsBlank call.arguments.toList := by
  rw [Call.hasArguments, Bool.not_eq_true', Text.allBlank, IsBlank, ← List.all_eq_true,
    Bool.not_eq_true]

theorem verdict_of_arityFault? {declaration : Declaration} {call : Call}
    (balanced : Balanced call.arguments.toList) :
    Verdict call.name call.arguments.toList (.procedure declaration)
      (arityFault? (declared declaration).arity call) := by
  have divided := outerCommas_pos_iff_isDivided balanced
  rw [arityFault?.eq_def, Call.argumentCount]
  by_cases blank : IsBlank call.arguments.toList
  · have without : ¬ call.hasArguments = true := fun arguments =>
      hasArguments_iff.mp arguments blank
    rw [if_neg without]
    cases parameter : declaration.parameter with
    | none =>
        rw [declared, parameter]
        exact .plain parameter blank
    | some _ =>
        have unary : declaration.parameter ≠ none := by simp [parameter]
        rw [declared, parameter]
        exact .missing unary blank
  · rw [if_pos (hasArguments_iff.mpr blank)]
    cases parameter : declaration.parameter with
    | none =>
        rw [declared, parameter]
        exact .unexpected parameter blank
    | some _ =>
        have unary : declaration.parameter ≠ none := by simp [parameter]
        rw [declared, parameter]
        cases commas : outerCommas 0 call.arguments.toList with
        | zero =>
            have undivided : ¬ IsDivided call.arguments.toList := by
              rw [← divided, commas]
              exact Nat.lt_irrefl 0
            exact .single unary blank undivided
        | succ more => exact .several unary (divided.mp (by omega))

/-- What is found wrong with a call follows from the meaning of its name. -/
theorem verdict_of_callFault? (declarations : List Declaration) {call : Call}
    (balanced : Balanced call.arguments.toList) :
    ∃ meaning, Means declarations call.name meaning ∧
      Verdict call.name call.arguments.toList meaning
        (callFault? (tabulate declarations).1 call) := by
  obtain ⟨meaning, means⟩ := means_exists declarations call.name
  refine ⟨meaning, means, ?_⟩
  rw [callFault?, get?_tabulate, firstDeclared?]
  cases meaning with
  | procedure declaration =>
      have found := means.find?_eq_some
      cases means with
      | procedure allowed =>
          rw [allowed, if_neg Bool.false_ne_true, found]
          exact verdict_of_arityFault? balanced
  | instruction =>
      cases means with
      | instruction instruction =>
          rw [isReserved_of_isInstruction instruction, if_pos rfl]
          dsimp only
          rw [if_pos instruction]
          split
          · next arguments => exact .burdened (hasArguments_iff.mp arguments)
          · next bare => exact .bare (Classical.not_not.mp fun blank =>
              bare (hasArguments_iff.mpr blank))
  | keyword =>
      cases means with
      | keyword keyword =>
          have ordinary : ¬ isInstruction call.name = true := fun instruction => by
            rw [isKeyword_of_isInstruction instruction] at keyword
            cases keyword
          rw [isReserved_of_isKeyword keyword, if_pos rfl]
          dsimp only
          rw [if_neg ordinary, if_pos keyword]
          exact .keyword
  | unknown =>
      cases means with
      | unknown allowed missing =>
          have absent : (declarations.find? fun other => other.name == call.name) = none := by
            apply List.find?_eq_none.mpr
            intro declaration member
            simpa using missing declaration member
          obtain ⟨instruction, keyword⟩ := Bool.or_eq_false_iff.mp allowed
          rw [allowed, if_neg Bool.false_ne_true, absent]
          dsimp only [Option.map_none]
          rw [instruction, keyword]
          exact .undeclared

theorem isParameterList_iff {declarations : List Declaration} {call : Call} :
    isParameterList declarations call = true ↔ IsHeading declarations call := by
  rw [isParameterList, List.any_eq_true]
  simp only [Bool.and_eq_true, beq_iff_eq, IsHeading]

/-- What is found wrong with a call of a program. -/
def judgement (declarations : List Declaration) (call : Call) : Option Fault :=
  if isParameterList declarations call then none
  else callFault? (tabulate declarations).1 call

theorem callProblem?_eq (declarations : List Declaration) (call : Call) :
    callProblem? declarations (tabulate declarations).1 call =
      (judgement declarations call).map (Problem.mk call.offset) := by
  unfold callProblem? judgement
  split <;> rfl

theorem judged_judgement (declarations : List Declaration) {call : Call}
    (balanced : Balanced call.arguments.toList) :
    Judged declarations call (judgement declarations call) := by
  unfold judgement
  split
  · next heading => exact .heading (isParameterList_iff.mp heading)
  · next ordinary =>
      obtain ⟨meaning, means, verdict⟩ := verdict_of_callFault? declarations balanced
      exact .named (fun heading => ordinary (isParameterList_iff.mpr heading)) means verdict

/-! ## The problems with the calls in a report -/

theorem category_of_mem_characterProblems {text : String} {problem : Problem}
    (member : problem ∈ characterProblems text) : problem.category = .declarations := by
  obtain ⟨_, _, rfl⟩ := List.mem_map.mp member
  rfl

theorem callProblems_eq_filterMap (declarations : List Declaration) (calls : List Call) :
    callProblems declarations calls (tabulate declarations).1 =
      calls.filterMap fun call => (judgement declarations call).map (Problem.mk call.offset) := by
  have same : callProblem? declarations (tabulate declarations).1 =
      fun call => (judgement declarations call).map (Problem.mk call.offset) :=
    funext (callProblem?_eq declarations)
  rw [callProblems, same]

theorem name?_of_judged {declarations : List Declaration} {call : Call} {fault : Fault}
    (judged : Judged declarations call (some fault)) :
    fault.name? = some call.name ∧ fault.category = .calls := by
  cases judged with
  | named _ _ verdict => exact name?_of_verdict verdict

theorem category_of_mem_callProblems {text : String} {problem : Problem}
    (member : problem ∈
      callProblems (declarations text) (calls text) (tabulate (declarations text)).1) :
    problem.category = .calls := by
  rw [callProblems_eq_filterMap] at member
  obtain ⟨call, called, found⟩ := List.mem_filterMap.mp member
  obtain ⟨fault, wrong, rfl⟩ := Option.map_eq_some_iff.mp found
  have judged := judged_judgement (declarations text) (balanced_of_mem_callsFrom called)
  rw [wrong] at judged
  exact (name?_of_judged judged).2

/-- The problems with calls in a report are those that the check of the calls finds, up to the
limit. -/
theorem filter_calls_check (text : String) (limit : Nat) :
    ((check text limit).problems.filter fun problem => problem.category = .calls) =
      (callProblems (declarations text) (calls text) (tabulate (declarations text)).1).take
        limit := by
  have characters : (((characterProblems text).take limit).filter fun problem =>
      problem.category = .calls) = [] := by
    apply List.filter_eq_nil_iff.mpr
    intro problem member
    rw [category_of_mem_characterProblems (List.mem_of_mem_take member)]
    decide
  have rejected (count : Nat) : (((tabulate (declarations text)).2.take count).filter fun problem =>
      problem.category = .calls) = [] := by
    apply List.filter_eq_nil_iff.mpr
    intro problem member
    rw [category_of_mem_enterAll (List.mem_of_mem_take member)]
    decide
  have misused : ((callProblems (declarations text) (calls text)
      (tabulate (declarations text)).1).take limit).filter (fun problem =>
        problem.category = .calls) =
      (callProblems (declarations text) (calls text) (tabulate (declarations text)).1).take
        limit := by
    apply List.filter_eq_self.mpr
    intro problem member
    exact decide_eq_true (category_of_mem_callProblems (List.mem_of_mem_take member))
  rw [check, List.filter_append, List.filter_append, characters, rejected, misused]
  rfl

/-- The problems with the calls of a program: what is wrong with each call, in order, where
each name has one meaning and each call one verdict. -/
theorem check_calls_judged (text : String) (limit : Nat)
    (enough : (calls text).length ≤ limit) :
    (∀ name, ∃! meaning, Means (declarations text) name meaning) ∧
    (∀ call, ∃! fault, Judged (declarations text) call fault) ∧
    (∀ call fault, Judged (declarations text) call (some fault) →
      fault.name? = some call.name) ∧
    ∃ verdict : Call → Option Fault,
      (∀ call ∈ calls text, Judged (declarations text) call (verdict call)) ∧
      ((check text limit).problems.filter fun problem => problem.category = .calls) =
        (calls text).filterMap fun call => (verdict call).map (Problem.mk call.offset) := by
  refine ⟨?meanings, ?verdicts, ?names, judgement (declarations text), ?judged, ?problems⟩
  case meanings =>
    intro name
    obtain ⟨meaning, means⟩ := means_exists (declarations text) name
    exact ⟨meaning, means, fun _ other => means_unique other means⟩
  case verdicts =>
    intro call
    obtain ⟨fault, judged⟩ := judged_exists (declarations text) call
    exact ⟨fault, judged, fun _ other => judged_unique other judged⟩
  case names => exact fun call fault judged => (name?_of_judged judged).1
  case judged =>
    intro call called
    exact judged_judgement (declarations text) (balanced_of_mem_callsFrom called)
  case problems =>
    rw [filter_calls_check, callProblems_eq_filterMap]
    apply List.take_of_length_le
    exact Nat.le_trans (List.length_filterMap_le _ _) enough

/-- Calls of all kinds: before a declaration with a parameter and after it, of an instruction
with an argument, of a keyword and of a name that nothing declares. -/
def misusedNames : String :=
  "go() void go(n) \x7b move(1) if(lost((1), 2)) \x7d go((1, 2)) go((1), 2)"

theorem check_calls_judged_misusedNames :
    (calls misusedNames).length ≤ 7 ∧
    ((check misusedNames 7).problems.filter fun problem => problem.category = .calls) =
      [⟨0, .missingParameter "go"⟩, ⟨18, .instructionParameter "move"⟩,
        ⟨29, .undeclared "lost"⟩, ⟨56, .tooManyParameters "go"⟩] ∧
    ∃ verdict : Call → Option Fault,
      (∀ call ∈ calls misusedNames, Judged (declarations misusedNames) call (verdict call)) ∧
      ((check misusedNames 7).problems.filter fun problem => problem.category = .calls) =
        (calls misusedNames).filterMap fun call => (verdict call).map (Problem.mk call.offset) :=
  ⟨by decide, by decide,
    (check_calls_judged misusedNames 7 (by decide)).2.2.2⟩

end KarelLint.Diagnosis
