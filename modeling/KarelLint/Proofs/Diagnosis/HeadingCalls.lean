import KarelLint.Proofs.Diagnosis.Limits
import KarelLint.Proofs.Source.CallSites

/-! The search for declarations and the search for calls agree. A parameter list directly after
the name of a declaration also reads as the arguments of one call. The check of the calls leaves
out these calls and no others. -/

set_option autoImplicit false

namespace KarelLint.Diagnosis

open KarelLint.Source KarelLint.Text

/-- A call that is the parameter list of a declaration, directly after its name. -/
structure IsParameterListOf (text : String) (declaration : Declaration) (call : Call) : Prop where
  parenthesized : declaration.parenthesized = true
  direct : declaration.next? text = some '('
  offset : call.offset = declaration.offset
  name : call.name = declaration.name
  parameter : trim call.arguments.toList = (declaration.parameter.getD "").toList

/-- How the text at the name of a declaration reads as a call. -/
structure Agrees (text : String) (declaration : Declaration) : Prop where
  follows : declaration.parenthesized = true →
    declaration.next? text = some '(' ∨ (declaration.next? text).any isBlank = true
  direct : declaration.parenthesized = true → declaration.next? text = some '(' →
    ∃ call, ((calls text).filter fun other => other.offset = declaration.offset) = [call] ∧
      IsParameterListOf text declaration call ∧
      call.argumentCount = if declaration.parameter.isSome then 1 else 0
  spaced : declaration.parenthesized = true → (declaration.next? text).any isBlank = true →
    ∀ call ∈ calls text, call.offset ≠ declaration.offset
  bare : declaration.parenthesized = false → declaration.next? text ≠ some '(' →
    ∀ call ∈ calls text, call.offset ≠ declaration.offset
  malformed : declaration.parenthesized = false →
    ∀ call ∈ calls text, call.offset = declaration.offset →
      ¬ IsBlank call.arguments.toList ∧ ¬ IsIdentifier (trim call.arguments.toList)

/-! ## Calls at one place -/

theorem filter_offset_calls {text : String} {call : Call} (called : call ∈ calls text) :
    ((calls text).filter fun other => other.offset = call.offset) = [call] := by
  have ascending : (calls text).Pairwise fun left right => left.offset < right.offset :=
    List.pairwise_map.mp ((visibleFrom_ascending 0 text.toList).sublist (calls_sublist text))
  obtain ⟨earlier, later, split⟩ := List.append_of_mem called
  rw [split] at ascending ⊢
  obtain ⟨_, after, below⟩ := List.pairwise_append.mp ascending
  have before : (earlier.filter fun other => other.offset = call.offset) = [] := by
    apply List.filter_eq_nil_iff.mpr
    intro other member
    have less := below other member call List.mem_cons_self
    simp only [decide_eq_true_eq]
    omega
  have behind : (later.filter fun other => other.offset = call.offset) = [] := by
    apply List.filter_eq_nil_iff.mpr
    intro other member
    have less := (List.pairwise_cons.mp after).1 other member
    simp only [decide_eq_true_eq]
    omega
  rw [List.filter_append, before, List.filter_cons_of_pos (by simp), behind]
  rfl

theorem argumentCount_of_fits {call : Call} {parameter : Option (List Char)}
    (fits : Fits call.arguments.toList parameter) :
    call.argumentCount = if parameter.isSome then 1 else 0 := by
  have commas : outerCommas 0 call.arguments.toList = 0 := by
    simpa [outerCommas] using outerCommas_append_of_plain fits.plain 0 []
  obtain ⟨left, right, split, blankLeft, blankRight⟩ := exists_trim call.arguments.toList
  rw [fits.trimmed] at split
  cases parameter with
  | none =>
      have blank : IsBlank call.arguments.toList := by
        intro c member
        rw [split] at member
        rcases List.mem_append.mp member with first | second
        · exact blankLeft c first
        · exact blankRight c (by simpa using second)
      have without : ¬ call.hasArguments = true := fun arguments =>
        hasArguments_iff.mp arguments blank
      rw [Call.argumentCount, if_neg without]
      rfl
  | some name =>
      have present : call.hasArguments = true := by
        obtain ⟨c, tail, same, part⟩ := (fits.identifier name rfl).exists_cons
        apply hasArguments_iff.mpr
        intro blank
        have clash := blank c (by simp [split, same])
        rw [isBlank_of_isIdentifierPart part] at clash
        cases clash
      rw [Call.argumentCount, if_pos present, commas]
      rfl

/-! ## Calls at declarations -/

section Declarations

variable {text : String} {declaration : Declaration} {front after : List Char}

theorem parameter_of_fits (named : NamedBetween text.toList declaration front after)
    {parameter : Option (List Char)}
    (read : (parameterList? after).map (·.parameter) = some parameter) :
    declaration.parenthesized = true ∧ declaration.parameter = parameter.map String.ofList := by
  obtain ⟨list, found, rfl⟩ := Option.map_eq_some_iff.mp read
  rw [named.parenthesized, named.parameter, found]
  exact ⟨rfl, rfl⟩

/-- A call at a declaration with parentheses is its parameter list. -/
theorem isParameterListOf_of_mem_calls (member : declaration ∈ declarations text)
    (parenthesized : declaration.parenthesized = true) {call : Call} (called : call ∈ calls text)
    (here : call.offset = declaration.offset) :
    IsParameterListOf text declaration call ∧
      call.argumentCount = if declaration.parameter.isSome then 1 else 0 := by
  obtain ⟨front, after, named⟩ := exists_namedBetween member
  obtain ⟨inner, arguments, rfl, closes, rfl⟩ := named.mem_calls_iff.mp ⟨called, here⟩
  rw [named.parenthesized] at parenthesized
  obtain ⟨list, found⟩ := Option.isSome_iff_exists.mp parenthesized
  have read : (parameterList? ('(' :: inner)).map (·.parameter) = some list.parameter := by
    rw [found]
    rfl
  obtain ⟨enclosed, closed, fits⟩ := parameterList?_open_iff.mp read
  obtain rfl : arguments = enclosed := Option.some.inj (closes.symm.trans closed)
  obtain ⟨isParenthesized, parameter⟩ := parameter_of_fits named read
  have fitting : Fits (String.ofList arguments).toList list.parameter := by
    rw [String.toList_ofList]
    exact fits
  refine ⟨⟨isParenthesized, named.next?_eq, rfl, rfl, ?_⟩, ?_⟩
  · rw [fitting.trimmed, parameter]
    cases list.parameter with
    | none => rfl
    | some name => exact String.toList_ofList.symm
  · rw [argumentCount_of_fits fitting, parameter, Option.isSome_map]

theorem exists_call_of_direct (member : declaration ∈ declarations text)
    (parenthesized : declaration.parenthesized = true)
    (direct : declaration.next? text = some '(') :
    ∃ call ∈ calls text, call.offset = declaration.offset := by
  obtain ⟨front, after, named⟩ := exists_namedBetween member
  rw [named.next?_eq] at direct
  obtain ⟨inner, rfl⟩ := List.head?_eq_some_iff.mp direct
  rw [named.parenthesized] at parenthesized
  obtain ⟨list, found⟩ := Option.isSome_iff_exists.mp parenthesized
  have read : (parameterList? ('(' :: inner)).map (·.parameter) = some list.parameter := by
    rw [found]
    rfl
  obtain ⟨arguments, closes, _⟩ := parameterList?_open_iff.mp read
  have found := named.mem_calls_iff.mpr ⟨inner, arguments, rfl, closes, rfl⟩
  exact ⟨_, found⟩

theorem next?_of_mem_calls (member : declaration ∈ declarations text) {call : Call}
    (called : call ∈ calls text) (here : call.offset = declaration.offset) :
    declaration.next? text = some '(' := by
  obtain ⟨front, after, named⟩ := exists_namedBetween member
  obtain ⟨inner, _, rfl, _⟩ := named.mem_calls_iff.mp ⟨called, here⟩
  exact named.next?_eq

/-- What does not fit in a parameter list is written at a declaration without one. -/
theorem not_fits_of_mem_calls (member : declaration ∈ declarations text)
    (unparenthesized : declaration.parenthesized = false) {call : Call} (called : call ∈ calls text)
    (here : call.offset = declaration.offset) (parameter : Option (List Char)) :
    ¬ Fits call.arguments.toList parameter := by
  intro fits
  obtain ⟨front, after, named⟩ := exists_namedBetween member
  obtain ⟨inner, arguments, rfl, closes, rfl⟩ := named.mem_calls_iff.mp ⟨called, here⟩
  rw [String.toList_ofList] at fits
  have read := parameterList?_open_iff.mpr ⟨arguments, closes, fits⟩
  rw [(parameter_of_fits named read).1] at unparenthesized
  cases unparenthesized

theorem agrees_of_mem_declarations (member : declaration ∈ declarations text) :
    Agrees text declaration := by
  constructor
  case follows =>
    intro parenthesized
    obtain ⟨front, after, named⟩ := exists_namedBetween member
    rw [named.parenthesized] at parenthesized
    rw [named.next?_eq]
    exact head?_of_parameterList? parenthesized
  case direct =>
    intro parenthesized direct
    obtain ⟨call, called, here⟩ := exists_call_of_direct member parenthesized direct
    obtain ⟨written, count⟩ := isParameterListOf_of_mem_calls member parenthesized called here
    refine ⟨call, ?_, written, count⟩
    rw [← here]
    exact filter_offset_calls called
  case spaced =>
    intro _ blank call called here
    rw [next?_of_mem_calls member called here] at blank
    revert blank
    decide
  case bare =>
    intro _ other call called here
    exact other (next?_of_mem_calls member called here)
  case malformed =>
    intro unparenthesized call called here
    have misfit := not_fits_of_mem_calls member unparenthesized called here
    constructor
    · intro blank
      exact misfit none ⟨trim_of_blank blank, by simp⟩
    · intro identifier
      refine misfit (some (trim call.arguments.toList)) ⟨rfl, ?_⟩
      intro name same
      cases same
      exact identifier

end Declarations

/-! ## The check of the calls -/

theorem isParameterList_iff_isParameterListOf {text : String} {call : Call}
    (called : call ∈ calls text) :
    isParameterList (declarations text) call = true ↔
      ∃ declaration ∈ declarations text, IsParameterListOf text declaration call := by
  rw [isParameterList_iff]
  constructor
  · rintro ⟨declaration, member, parenthesized, here⟩
    have written := isParameterListOf_of_mem_calls member parenthesized called here.symm
    exact ⟨declaration, member, written.1⟩
  · rintro ⟨declaration, member, written⟩
    exact ⟨declaration, member, written.parenthesized, written.offset.symm⟩

/-- The problems with the calls of a text that are not written as parameter lists. -/
theorem misusedCalls_eq_filterMap (text : String) :
    misusedCalls text =
      ((calls text).filter fun call => !isParameterList (declarations text) call).filterMap
        fun call => (callFault? (tabulate (declarations text)).1 call).map
          (Problem.mk call.offset) := by
  rw [misusedCalls, callProblems, List.filterMap_filter]
  apply List.filterMap_congr
  intro call _
  rw [callProblem?]
  cases isParameterList (declarations text) call with
  | true => rfl
  | false => rfl

theorem offset_ne_of_mem_misusedCalls {text : String} {problem : Problem}
    (member : problem ∈ misusedCalls text) {declaration : Declaration}
    (declared : declaration ∈ declarations text)
    (parenthesized : declaration.parenthesized = true) :
    problem.offset ≠ declaration.offset := by
  rw [misusedCalls_eq_filterMap] at member
  obtain ⟨call, kept, found⟩ := List.mem_filterMap.mp member
  obtain ⟨fault, _, rfl⟩ := Option.map_eq_some_iff.mp found
  obtain ⟨_, ordinary⟩ := List.mem_filter.mp kept
  intro same
  have skipped : isParameterList (declarations text) call = true :=
    isParameterList_iff.mpr ⟨declaration, declared, parenthesized, same.symm⟩
  rw [skipped] at ordinary
  cases ordinary

/-- The two searches agree at every declaration. The check of the calls passes over the parameter
lists of declarations and over no other call, and reports nothing at a declaration that has
one. -/
theorem declarations_agree_with_calls (text : String) :
    (∀ declaration ∈ declarations text, Agrees text declaration) ∧
    (∀ call ∈ calls text, isParameterList (declarations text) call = true ↔
      ∃ declaration ∈ declarations text, IsParameterListOf text declaration call) ∧
    (∀ limit, (check text limit).ofCategory .calls =
      (((calls text).filter fun call => !isParameterList (declarations text) call).filterMap
        fun call => (callFault? (tabulate (declarations text)).1 call).map
          (Problem.mk call.offset)).take limit) ∧
    ∀ limit, ∀ problem ∈ (check text limit).ofCategory .calls,
      ∀ declaration ∈ declarations text, declaration.parenthesized = true →
        problem.offset ≠ declaration.offset := by
  refine ⟨fun _ member => agrees_of_mem_declarations member,
    fun _ called => isParameterList_iff_isParameterListOf called, ?_, ?_⟩
  · intro limit
    rw [ofCategory_check, allOfCategory, misusedCalls_eq_filterMap]
  · intro limit problem member declaration declared parenthesized
    rw [ofCategory_check] at member
    exact offset_ne_of_mem_misusedCalls (List.mem_of_mem_take member) declared
      parenthesized

/-- Declarations of all shapes: with a parameter list, with one after white space, without one,
and with parentheses that enclose something else. -/
def variedHeadings : String :=
  "void f( n ) void g () define h void k(1, 2)"

example : ((declarations variedHeadings).map fun declaration =>
    (declaration.name, declaration.parenthesized, declaration.next? variedHeadings)) =
    [("f", true, some '('), ("g", true, some ' '), ("h", false, some ' '),
      ("k", false, some '(')] := by
  decide +kernel

end KarelLint.Diagnosis
