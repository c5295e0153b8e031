import KarelLint.Proofs.Diagnosis.Limits

/-! Every problem of a text, and every procedure of its table, stands in the text where it is said
to stand. So all that shows problems to people can cut the text there. -/

set_option autoImplicit false

namespace KarelLint.Diagnosis

open KarelLint.Source KarelLint.Text

/-- A problem at a place of a text where the text can be cut and where its character or its name
stands. -/
structure Anchored (text : List Char) (problem : Problem) : Prop where
  start : (cut? problem.offset text).isSome = true
  stop : (cut? (problem.offset + problem.width) text).isSome = true
  inside : problem.offset < byteLength text
  within : problem.offset + problem.width ≤ byteLength text
  character : ∀ c, problem.fault = .illegalCharacter c →
    slice? text problem.offset (problem.offset + c.utf8Size) = some [c] ∧ isLegal c = false
  name : (∀ c, problem.fault ≠ .illegalCharacter c) → ∃ name,
    problem.fault.name? = some name ∧ 0 < problem.width ∧
      slice? text problem.offset (problem.offset + problem.width) = some name.toList ∧
      IsIdentifier name.toList

namespace Anchored

variable {text : List Char} {offset : Nat}

theorem of_character {c : Char} (stands : StandsAt 0 text offset [c])
    (illegal : isLegal c = false) : Anchored text ⟨offset, .illegalCharacter c⟩ := by
  have positive : 0 < c.utf8Size := c.utf8Size_pos
  have bound := stands.within
  simp only [byteLength_cons, byteLength_nil, Nat.add_zero] at bound
  constructor
  case start => exact stands.cut.1
  case stop => exact stands.cut.1
  case inside => exact Nat.lt_of_lt_of_le (Nat.lt_add_of_pos_right positive) bound
  case within => exact Nat.le_trans (Nat.le_add_right offset c.utf8Size) bound
  case character =>
    intro d same
    cases same
    exact ⟨by simpa using stands.slice, illegal⟩
  case name => exact fun named => absurd rfl (named c)

theorem of_name {fault : Fault} {name : String} (named : fault.name? = some name)
    (stands : StandsAt 0 text offset name.toList) (identifier : IsIdentifier name.toList) :
    Anchored text ⟨offset, fault⟩ := by
  have width : Problem.width ⟨offset, fault⟩ = byteLength name.toList := by
    simp [Problem.width, named]
  have positive : 0 < byteLength name.toList := by
    obtain ⟨first, tail, split, _⟩ := identifier.exists_cons
    have wide : 0 < first.utf8Size := first.utf8Size_pos
    rw [split, byteLength_cons]
    omega
  constructor
  case start => exact stands.cut.1
  case stop =>
    rw [width]
    exact stands.cut.2
  case inside => exact Nat.lt_of_lt_of_le (Nat.lt_add_of_pos_right positive) stands.within
  case within =>
    rw [width]
    exact stands.within
  case character =>
    intro c same
    simp only at same
    rw [same] at named
    cases named
  case name =>
    intro _
    refine ⟨name, named, ?_, ?_, identifier⟩
    · rw [width]
      exact positive
    · rw [width]
      exact stands.slice

end Anchored

/-! ## The problems of a text -/

theorem call_of_mem_misusedCalls {text : String} {problem : Problem}
    (member : problem ∈ misusedCalls text) :
    ∃ call ∈ calls text, problem.offset = call.offset ∧
      problem.fault.name? = some call.name := by
  rw [misusedCalls, callProblems_eq_filterMap] at member
  obtain ⟨call, called, found⟩ := List.mem_filterMap.mp member
  obtain ⟨fault, wrong, rfl⟩ := Option.map_eq_some_iff.mp found
  have judged := judged_judgement (declarations text) (balanced_of_mem_callsFrom called)
  rw [wrong] at judged
  exact ⟨call, called, rfl, (name?_of_judged judged).1⟩

theorem standsAt_declaration {text : String} {declaration : Declaration}
    (member : declaration ∈ declarations text) :
    StandsAt 0 text.toList declaration.offset declaration.name.toList ∧
      IsIdentifier declaration.name.toList :=
  (search_declarationsFrom none 0 text.toList).standsAt member

theorem anchored_of_mem_check {text : String} {limit : Nat} {problem : Problem}
    (member : problem ∈ (check text limit).problems) : Anchored text.toList problem := by
  rw [check_eq_take] at member
  rcases List.mem_append.mp member with first | misused
  · rcases List.mem_append.mp (List.mem_of_mem_take first) with character | rejected
    · obtain ⟨⟨offset, c⟩, found, rfl⟩ := List.mem_map.mp character
      obtain ⟨stands, illegal⟩ := standsAt_of_mem_illegalFrom found
      exact .of_character stands illegal
    · obtain ⟨declaration, declared, offset, _, found⟩ := rejection_of_mem_enterAll rejected
      obtain ⟨stands, identifier⟩ := standsAt_declaration declared
      exact .of_name (name?_of_rejection? found).1 (offset ▸ stands) identifier
  · obtain ⟨call, called, offset, named⟩ := call_of_mem_misusedCalls (List.mem_of_mem_take misused)
    obtain ⟨stands, identifier⟩ := standsAt_of_mem_callsFrom called
    exact .of_name named (offset ▸ stands) identifier

theorem declaration_of_mem_table {text : String} {limit : Nat} {symbol : Symbol}
    (member : symbol ∈ (check text limit).table.toList) :
    ∃ declaration ∈ declarations text, declared declaration = symbol := by
  have found := SymbolTable.get?_of_mem_toList member
  rw [check_eq_take, get?_tabulate, firstDeclared?] at found
  split at found
  · cases found
  · obtain ⟨declaration, first, same⟩ := Option.map_eq_some_iff.mp found
    exact ⟨declaration, List.mem_of_find?_eq_some first, same⟩

/-! ## What is shown of a problem -/

/-- A problem of a text that can be shown: all that is computed from the text exists. -/
structure Showable (text : String) (problem : Problem) : Prop where
  place : (characterPlace? text.toList problem.offset).isSome = true
  first : (unitPlace? text.toList problem.offset).isSome = true
  last : (unitPlace? text.toList (problem.offset + problem.width)).isSome = true
  diagnostic : (Session.Diagnostic.ofProblem? text.toList problem).isSome = true
  complaint : ∀ detail filename,
    (Terminal.show? detail filename text.toList problem).isSome = true

theorem Anchored.showable {text : String} {problem : Problem}
    (anchored : Anchored text.toList problem) : Showable text problem := by
  obtain ⟨place, first⟩ := places_of_cut anchored.start
  obtain ⟨_, last⟩ := places_of_cut anchored.stop
  constructor
  case place => exact place
  case first => exact first
  case last => exact last
  case diagnostic =>
    obtain ⟨start, started⟩ := Option.isSome_iff_exists.mp first
    obtain ⟨stop, stopped⟩ := Option.isSome_iff_exists.mp last
    simp [Session.Diagnostic.ofProblem?, Session.Diagnostic.range?, started, stopped]
  case complaint =>
    intro detail filename
    obtain ⟨start, started⟩ := Option.isSome_iff_exists.mp place
    cases detail with
    | concise => simp [Terminal.show?, Terminal.concise?, started]
    | full => simp [Terminal.show?, Terminal.full?, started]

/-- Problems and procedures are anchored in the text, so every problem can be shown, in an editor
and on a terminal, and none is left out there. -/
theorem check_anchored (text : String) (limit : Nat) :
    (∀ problem ∈ (check text limit).problems,
      Anchored text.toList problem ∧ Showable text problem) ∧
    (∀ symbol ∈ (check text limit).table.toList,
      symbol.offset + symbol.name.utf8ByteSize ≤ text.utf8ByteSize ∧
        slice? text.toList symbol.offset (symbol.offset + symbol.name.utf8ByteSize) =
          some symbol.name.toList ∧
        IsIdentifier symbol.name.toList) ∧
    (Session.Diagnostic.ofProblems text (check text limit).problems).length =
      (check text limit).problems.length ∧
    ∀ detail filename,
      (CommandLine.Outcome.complaints detail filename text (check text limit).problems).length =
        (check text limit).problems.length := by
  refine ⟨?problems, ?symbols, ?diagnostics, ?complaints⟩
  case problems =>
    intro problem member
    have anchored := anchored_of_mem_check member
    exact ⟨anchored, anchored.showable⟩
  case symbols =>
    intro symbol member
    obtain ⟨declaration, found, rfl⟩ := declaration_of_mem_table member
    obtain ⟨stands, identifier⟩ := standsAt_declaration found
    have bound := stands.within
    have slice := stands.slice
    simp only [byteLength_toList] at bound slice
    exact ⟨bound, slice, identifier⟩
  case diagnostics =>
    apply List.filterMap_length_eq_length.mpr
    intro problem member
    exact (anchored_of_mem_check member).showable.diagnostic
  case complaints =>
    intro detail filename
    apply List.filterMap_length_eq_length.mpr
    intro problem member
    exact (anchored_of_mem_check member).showable.complaint detail filename

end KarelLint.Diagnosis
