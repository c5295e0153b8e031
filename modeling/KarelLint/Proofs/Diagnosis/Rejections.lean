import KarelLint.Proofs.Diagnosis.Tabulation

/-! The table of some declarations and the problems with them, declaration by declaration. The table
that a declaration meets is that of the declarations before it, so what happens to a declaration can
be said by what stands before it in the list, without a table. -/

set_option autoImplicit false

namespace KarelLint.Diagnosis

open KarelLint.Source

/-! ## What stands before a declaration -/

/-- Why a declaration does not count after some others: its name is reserved, or one of the others
has it. -/
def refusal? (earlier : List Declaration) (declaration : Declaration) : Option Fault :=
  if isReserved declaration.name then some (.reservedWord declaration.name)
  else if earlier.any (·.name == declaration.name) then some (.alreadyDefined declaration.name)
  else none

/-- The problem with the declaration at an index of a list. -/
def problemAt? (declarations : List Declaration) (index : Nat) : Option Problem :=
  declarations[index]?.bind fun declaration =>
    (refusal? (declarations.take index) declaration).map (Problem.mk declaration.offset)

theorem refusal?_eq_none_iff {earlier : List Declaration} {declaration : Declaration} :
    refusal? earlier declaration = none ↔
      isReserved declaration.name = false ∧ ∀ other ∈ earlier, other.name ≠ declaration.name := by
  unfold refusal?
  cases isReserved declaration.name with
  | true => simp
  | false => simp

theorem isReserved_of_refusal? {earlier : List Declaration} {declaration : Declaration}
    {name : String} (refused : refusal? earlier declaration = some (.alreadyDefined name)) :
    isReserved name = false := by
  unfold refusal? at refused
  cases reserved : isReserved declaration.name with
  | true => simp [reserved] at refused
  | false =>
      simp only [reserved, Bool.false_eq_true, if_false] at refused
      split at refused
      · cases refused
        exact reserved
      · cases refused

theorem problemAt?_eq {declarations : List Declaration} {index : Nat} {declaration : Declaration}
    (found : declarations[index]? = some declaration) :
    problemAt? declarations index =
      (refusal? (declarations.take index) declaration).map (Problem.mk declaration.offset) := by
  rw [problemAt?, found, Option.bind_some]

theorem problemAt?_length (earlier : List Declaration) (declaration : Declaration)
    (later : List Declaration) :
    problemAt? (earlier ++ declaration :: later) earlier.length =
      (refusal? earlier declaration).map (Problem.mk declaration.offset) := by
  have here : (earlier ++ declaration :: later)[earlier.length]? = some declaration := by simp
  rw [problemAt?_eq here, List.take_left]

/-! ## Entering one declaration after the other -/

theorem enterAll_append (table : SymbolTable) (earlier later : List Declaration) :
    enterAll table (earlier ++ later) =
      ((enterAll (enterAll table earlier).1 later).1,
        (enterAll table earlier).2 ++ (enterAll (enterAll table earlier).1 later).2) := by
  induction earlier generalizing table with
  | nil => rfl
  | cons declaration earlier ih =>
      cases rejected : rejection? table declaration with
      | none =>
          rw [List.cons_append, enterAll_of_accepted rejected, enterAll_of_accepted rejected, ih]
      | some fault =>
          rw [List.cons_append, enterAll_of_rejection rejected, enterAll_of_rejection rejected, ih]
          rfl

theorem problems_enterAll_single (table : SymbolTable) (declaration : Declaration) :
    (enterAll table [declaration]).2 =
      ((rejection? table declaration).map (Problem.mk declaration.offset)).toList := by
  cases rejected : rejection? table declaration with
  | none =>
      rw [enterAll_of_accepted rejected]
      rfl
  | some fault =>
      rw [enterAll_of_rejection rejected]
      rfl

theorem firstDeclared?_eq_none_iff {declarations : List Declaration} {name : String} :
    firstDeclared? declarations name = none ↔
      isReserved name = true ∨ ∀ declaration ∈ declarations, declaration.name ≠ name := by
  unfold firstDeclared?
  cases isReserved name with
  | true => simp
  | false => simp

/-- The table of the declarations before it refuses a declaration as they do. It never holds a
reserved name, so it does not matter that the table is asked first. -/
theorem rejection?_tabulate (earlier : List Declaration) (declaration : Declaration) :
    rejection? (tabulate earlier).1 declaration = refusal? earlier declaration := by
  rcases rejection?_cases (tabulate earlier).1 declaration with
    ⟨symbol, taken, rejected⟩ | ⟨_, reserved, rejected⟩ | ⟨missing, allowed, accepted⟩
  · have held : firstDeclared? earlier declaration.name ≠ none := by
      rw [← get?_tabulate, taken]
      exact Option.some_ne_none symbol
    obtain ⟨allowed, repeated⟩ := not_or.mp (mt firstDeclared?_eq_none_iff.mpr held)
    have found : (earlier.any (·.name == declaration.name)) = true := by simpa using repeated
    rw [rejected, refusal?, if_neg allowed, if_pos found]
  · rw [rejected, refusal?, if_pos reserved]
  · rw [get?_tabulate] at missing
    have unheld := (firstDeclared?_eq_none_iff.mp missing).resolve_left (by simp [allowed])
    rw [accepted, refusal?_eq_none_iff.mpr ⟨allowed, unheld⟩]

/-- After the declarations before them, declarations are refused at their indices in the whole
list. -/
theorem problems_enterAll (earlier later : List Declaration) :
    (enterAll (tabulate earlier).1 later).2 =
      (List.range' earlier.length later.length).filterMap (problemAt? (earlier ++ later)) := by
  induction later generalizing earlier with
  | nil => rfl
  | cons declaration later ih =>
      have passed : (enterAll (tabulate earlier).1 [declaration]).1 =
          (tabulate (earlier ++ [declaration])).1 := by
        rw [tabulate, tabulate, enterAll_append]
      have rest := ih (earlier ++ [declaration])
      rw [List.length_append, List.length_singleton, List.append_assoc, List.singleton_append,
        ← passed] at rest
      rw [← List.singleton_append, enterAll_append, problems_enterAll_single, rejection?_tabulate,
        rest, List.singleton_append, List.length_cons, List.range'_succ, List.filterMap_cons,
        problemAt?_length]
      cases refusal? earlier declaration with
      | none => rfl
      | some fault => rfl

theorem size_add_length_enterAll (table : SymbolTable) (declarations : List Declaration) :
    (enterAll table declarations).1.size + (enterAll table declarations).2.length =
      table.size + declarations.length := by
  induction declarations generalizing table with
  | nil => rfl
  | cons declaration later ih =>
      rcases rejection?_cases table declaration with
        ⟨_, _, rejected⟩ | ⟨_, _, rejected⟩ | ⟨missing, _, accepted⟩
      · rw [enterAll_of_rejection rejected, List.length_cons, List.length_cons, ← Nat.add_assoc,
          ih table, Nat.add_assoc]
      · rw [enterAll_of_rejection rejected, List.length_cons, List.length_cons, ← Nat.add_assoc,
          ih table, Nat.add_assoc]
      · have grown : (table.insert (declared declaration)).1.size = table.size + 1 :=
          SymbolTable.size_insert_of_missing missing
        rw [enterAll_of_accepted accepted, ih, grown, List.length_cons]
        omega

/-! ## The whole list -/

theorem problems_tabulate (declarations : List Declaration) :
    (tabulate declarations).2 =
      (List.range declarations.length).filterMap (problemAt? declarations) := by
  have whole := problems_enterAll [] declarations
  rwa [List.length_nil, List.nil_append, ← List.range_eq_range'] at whole

/-- The indices of the declarations that are refused. -/
def refusedIndices (declarations : List Declaration) : List Nat :=
  (List.range declarations.length).filter fun index => (problemAt? declarations index).isSome

theorem mem_refusedIndices_iff {declarations : List Declaration} {index : Nat}
    {declaration : Declaration} (found : declarations[index]? = some declaration) :
    index ∈ refusedIndices declarations ↔
      refusal? (declarations.take index) declaration ≠ none := by
  have inside : index < declarations.length := (List.getElem?_eq_some_iff.mp found).1
  rw [refusedIndices, List.mem_filter, problemAt?_eq found, Option.isSome_map, List.mem_range]
  simp [inside, Option.isSome_iff_ne_none]

theorem map_problemAt?_refusedIndices (declarations : List Declaration) :
    (refusedIndices declarations).map (problemAt? declarations) =
      (tabulate declarations).2.map some := by
  rw [problems_tabulate, refusedIndices]
  generalize List.range declarations.length = indices
  induction indices with
  | nil => rfl
  | cons index indices ih =>
      cases found : problemAt? declarations index with
      | none => simpa [found] using ih
      | some problem => simpa [found] using ih

theorem get?_tabulate_eq_some {declarations : List Declaration} {name : String} {symbol : Symbol}
    (found : (tabulate declarations).1.get? name = some symbol) :
    ∃ earlier declaration later, declarations = earlier ++ declaration :: later ∧
      declaration.name = name ∧ (∀ other ∈ earlier, other.name ≠ name) ∧
      symbol = declared declaration := by
  rw [get?_tabulate, firstDeclared?] at found
  split at found
  · cases found
  · obtain ⟨declaration, first, rfl⟩ := Option.map_eq_some_iff.mp found
    obtain ⟨same, earlier, later, split, different⟩ := List.find?_eq_some_iff_append.mp first
    refine ⟨earlier, declaration, later, split, eq_of_beq same, ?_, rfl⟩
    intro other member
    simpa using different other member

/-- A declaration that is not refused is the one in the table. -/
theorem get?_tabulate_of_accepted {declarations : List Declaration} {index : Nat}
    {declaration : Declaration} (found : declarations[index]? = some declaration)
    (accepted : refusal? (declarations.take index) declaration = none) :
    (tabulate declarations).1.get? declaration.name = some (declared declaration) := by
  obtain ⟨allowed, unheld⟩ := refusal?_eq_none_iff.mp accepted
  obtain ⟨inside, same⟩ := List.getElem?_eq_some_iff.mp found
  have split : declarations =
      declarations.take index ++ declaration :: declarations.drop (index + 1) := by
    rw [← same, ← List.drop_eq_getElem_cons inside, List.take_append_drop]
  have first : (declarations.find? fun other => other.name == declaration.name) =
      some declaration := by
    apply List.find?_eq_some_iff_append.mpr
    refine ⟨beq_self_eq_true _, _, _, split, ?_⟩
    intro other member
    simpa using unheld other member
  rw [get?_tabulate, firstDeclared?, if_neg (by simp [allowed]), first]
  rfl

/-- The table holds the first declaration of each name that is not reserved, and the problems are
those of all other declarations in their order. So each declaration is the one in the table or is
reported once, and a reserved name is only reported as such. -/
theorem tabulate_exact (declarations : List Declaration) :
    (∀ name, ((tabulate declarations).1.get? name).isSome = true ↔
      isReserved name = false ∧ ∃ declaration ∈ declarations, declaration.name = name) ∧
    (∀ name symbol, (tabulate declarations).1.get? name = some symbol →
      ∃ earlier declaration later, declarations = earlier ++ declaration :: later ∧
        declaration.name = name ∧ (∀ other ∈ earlier, other.name ≠ name) ∧
        symbol.name = name ∧ symbol.offset = declaration.offset ∧
        (symbol.arity = .unary ↔ declaration.parameter.isSome = true)) ∧
    (tabulate declarations).2 =
      (List.range declarations.length).filterMap (problemAt? declarations) ∧
    (∃ reported : List Nat, reported.Pairwise (· < ·) ∧
      reported.map (problemAt? declarations) = (tabulate declarations).2.map some ∧
      ∀ index declaration, declarations[index]? = some declaration →
        (index ∈ reported ∧ ¬ (isReserved declaration.name = false ∧
          ∀ other ∈ declarations.take index, other.name ≠ declaration.name)) ∨
        (index ∉ reported ∧
          (∀ other ∈ declarations.take index, other.name ≠ declaration.name) ∧
          (tabulate declarations).1.get? declaration.name = some (declared declaration))) ∧
    (tabulate declarations).1.size + (tabulate declarations).2.length = declarations.length ∧
    ∀ problem ∈ (tabulate declarations).2, ∀ name, problem.fault = .alreadyDefined name →
      isReserved name = false := by
  refine ⟨?names, ?symbols, problems_tabulate declarations, ?each, ?sizes, ?reserved⟩
  case names =>
    intro name
    rw [get?_tabulate, Option.isSome_iff_ne_none, ne_eq, firstDeclared?_eq_none_iff, not_or]
    simp
  case symbols =>
    intro name symbol found
    obtain ⟨earlier, declaration, later, split, same, different, rfl⟩ := get?_tabulate_eq_some found
    refine ⟨earlier, declaration, later, split, same, different, same, rfl, ?_⟩
    cases parameter : declaration.parameter with
    | none => simp [declared, parameter]
    | some written => simp [declared, parameter]
  case each =>
    have ascending : (refusedIndices declarations).Pairwise (· < ·) :=
      List.pairwise_lt_range.filter _
    refine ⟨refusedIndices declarations, ascending, map_problemAt?_refusedIndices declarations, ?_⟩
    intro index declaration found
    rw [mem_refusedIndices_iff found, ← refusal?_eq_none_iff]
    cases refused : refusal? (declarations.take index) declaration with
    | some fault => exact .inl ⟨Option.some_ne_none fault, Option.some_ne_none fault⟩
    | none =>
        exact .inr ⟨fun different => different rfl, (refusal?_eq_none_iff.mp refused).2,
          get?_tabulate_of_accepted found refused⟩
  case sizes =>
    have total := size_add_length_enterAll ∅ declarations
    have none : (∅ : SymbolTable).size = 0 := rfl
    rwa [none, Nat.zero_add] at total
  case reserved =>
    intro problem member name repeated
    rw [problems_tabulate] at member
    obtain ⟨index, _, found⟩ := List.mem_filterMap.mp member
    obtain ⟨declaration, _, found⟩ := Option.bind_eq_some_iff.mp found
    obtain ⟨fault, refused, rfl⟩ := Option.map_eq_some_iff.mp found
    exact isReserved_of_refusal? (refused.trans (congrArg some repeated))

/-- Declarations of reserved and repeated names, two of them without a name. -/
def repeatedDeclarations : List Declaration :=
  [⟨"move", 5, none, true⟩, ⟨"go", 20, some "n", true⟩, ⟨"go", 35, none, true⟩,
    ⟨"move", 50, none, false⟩, ⟨"", 3, none, false⟩, ⟨"", 3, none, false⟩]

theorem tabulate_exact_repeatedDeclarations :
    (tabulate repeatedDeclarations).1.toList = [⟨⟨.nullary, 3⟩, ""⟩, ⟨⟨.unary, 20⟩, "go"⟩] ∧
    (tabulate repeatedDeclarations).2 =
      [⟨5, .reservedWord "move"⟩, ⟨35, .alreadyDefined "go"⟩, ⟨50, .reservedWord "move"⟩,
        ⟨3, .alreadyDefined ""⟩] ∧
    (tabulate repeatedDeclarations).2 =
      (List.range repeatedDeclarations.length).filterMap (problemAt? repeatedDeclarations) ∧
    (tabulate repeatedDeclarations).1.size + (tabulate repeatedDeclarations).2.length =
      repeatedDeclarations.length := by
  have table := tabulate_exact repeatedDeclarations
  exact ⟨by decide, by decide, table.2.2.1, table.2.2.2.2.1⟩

end KarelLint.Diagnosis
