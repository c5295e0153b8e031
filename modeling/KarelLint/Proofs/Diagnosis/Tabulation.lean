import KarelLint.Diagnosis.Report
import KarelLint.Proofs.Source.Table

/-! The table of some declarations: the first declaration of each name decides, and reserved
names never enter. -/

set_option autoImplicit false

namespace KarelLint.Diagnosis

open KarelLint.Source

/-- A declaration is rejected because its name is taken or because it is reserved. -/
theorem rejection?_cases (table : SymbolTable) (declaration : Declaration) :
    (∃ symbol, table.get? declaration.name = some symbol ∧
      rejection? table declaration = some (.alreadyDefined declaration.name)) ∨
    (table.get? declaration.name = none ∧ isReserved declaration.name = true ∧
      rejection? table declaration = some (.reservedWord declaration.name)) ∨
    (table.get? declaration.name = none ∧ isReserved declaration.name = false ∧
      rejection? table declaration = none) := by
  unfold rejection?
  rw [SymbolTable.contains_eq_isSome_get?]
  cases table.get? declaration.name with
  | some symbol => exact .inl ⟨symbol, rfl, rfl⟩
  | none =>
      cases isReserved declaration.name with
      | true => exact .inr (.inl ⟨rfl, rfl, rfl⟩)
      | false => exact .inr (.inr ⟨rfl, rfl, rfl⟩)

theorem enterAll_of_rejection {table : SymbolTable} {declaration : Declaration} {fault : Fault}
    (rejected : rejection? table declaration = some fault) (later : List Declaration) :
    enterAll table (declaration :: later) =
      ((enterAll table later).1, ⟨declaration.offset, fault⟩ :: (enterAll table later).2) := by
  rw [enterAll, rejected]

theorem enterAll_of_accepted {table : SymbolTable} {declaration : Declaration}
    (accepted : rejection? table declaration = none) (later : List Declaration) :
    enterAll table (declaration :: later) =
      enterAll (table.insert (declared declaration)).1 later := by
  rw [enterAll, accepted]

/-- The procedure of a name: what its first declaration declares, unless the name is
reserved. -/
def firstDeclared? (declarations : List Declaration) (name : String) : Option Symbol :=
  if isReserved name then none
  else (declarations.find? fun declaration => declaration.name == name).map declared

theorem firstDeclared?_of_reserved {name : String} (reserved : isReserved name = true)
    (declarations : List Declaration) : firstDeclared? declarations name = none :=
  if_pos reserved

theorem firstDeclared?_cons_of_ne {declaration : Declaration} {name : String}
    (different : declaration.name ≠ name) (later : List Declaration) :
    firstDeclared? (declaration :: later) name = firstDeclared? later name := by
  have skipped : (declaration.name == name) = false := beq_eq_false_iff_ne.mpr different
  rw [firstDeclared?, firstDeclared?, List.find?_cons, skipped]

theorem firstDeclared?_cons_self {declaration : Declaration}
    (allowed : isReserved declaration.name = false) (later : List Declaration) :
    firstDeclared? (declaration :: later) declaration.name = some (declared declaration) := by
  rw [firstDeclared?, allowed, if_neg Bool.false_ne_true, List.find?_cons, beq_self_eq_true]
  rfl

/-- A table without reserved names. -/
def Unreserved (table : SymbolTable) : Prop :=
  ∀ name, isReserved name = true → table.get? name = none

theorem Unreserved.insert {table : SymbolTable} (unreserved : Unreserved table) {symbol : Symbol}
    (allowed : isReserved symbol.name = false) : Unreserved (table.insert symbol).1 := by
  intro name reserved
  have different : name ≠ symbol.name := by
    rintro rfl
    rw [allowed] at reserved
    cases reserved
  rw [SymbolTable.get?_insert_of_ne table different]
  exact unreserved name reserved

/-- Entering declarations keeps what a table holds and adds the first declaration of each
other name. -/
theorem get?_enterAll {table : SymbolTable} (unreserved : Unreserved table)
    (declarations : List Declaration) (name : String) :
    (enterAll table declarations).1.get? name =
      (table.get? name).or (firstDeclared? declarations name) := by
  induction declarations generalizing table with
  | nil => simp [enterAll, firstDeclared?]
  | cons declaration later ih =>
      rcases rejection?_cases table declaration with
        ⟨symbol, taken, rejected⟩ | ⟨_, reserved, rejected⟩ | ⟨missing, allowed, accepted⟩
      · rw [enterAll_of_rejection rejected, ih unreserved]
        by_cases same : declaration.name = name
        · rw [← same, taken, Option.some_or, Option.some_or]
        · rw [firstDeclared?_cons_of_ne same]
      · rw [enterAll_of_rejection rejected, ih unreserved]
        by_cases same : declaration.name = name
        · rw [← same, firstDeclared?_of_reserved reserved, firstDeclared?_of_reserved reserved]
        · rw [firstDeclared?_cons_of_ne same]
      · have entered : Unreserved (table.insert (declared declaration)).1 :=
          unreserved.insert allowed
        rw [enterAll_of_accepted accepted, ih entered]
        by_cases same : declaration.name = name
        · have found : (table.insert (declared declaration)).1.get? declaration.name =
              some (declared declaration) := SymbolTable.get?_insert_self missing
          rw [← same, found, firstDeclared?_cons_self allowed, missing]
          rfl
        · have kept : (table.insert (declared declaration)).1.get? name = table.get? name :=
            SymbolTable.get?_insert_of_ne table fun equal => same equal.symm
          rw [kept, firstDeclared?_cons_of_ne same]

theorem get?_tabulate (declarations : List Declaration) (name : String) :
    (tabulate declarations).1.get? name = firstDeclared? declarations name := by
  have unreserved : Unreserved ∅ := fun _ _ => rfl
  rw [tabulate, get?_enterAll unreserved]
  rfl

/-- Declarations with names of their own, none of them reserved, are all entered. -/
theorem problems_enterAll_eq_nil {table : SymbolTable} {declarations : List Declaration}
    (missing : ∀ declaration ∈ declarations, table.get? declaration.name = none)
    (allowed : ∀ declaration ∈ declarations, isReserved declaration.name = false)
    (distinct : (declarations.map (·.name)).Nodup) :
    (enterAll table declarations).2 = [] := by
  induction declarations generalizing table with
  | nil => rfl
  | cons declaration later ih =>
      obtain ⟨fresh, laterDistinct⟩ := List.nodup_cons.mp distinct
      rcases rejection?_cases table declaration with
        ⟨_, taken, _⟩ | ⟨_, reserved, _⟩ | ⟨_, _, accepted⟩
      · rw [missing declaration List.mem_cons_self] at taken
        cases taken
      · rw [allowed declaration List.mem_cons_self] at reserved
        cases reserved
      · rw [enterAll_of_accepted accepted]
        apply ih _ (fun other member => allowed other (List.mem_cons_of_mem _ member)) laterDistinct
        intro other member
        have different : other.name ≠ (declared declaration).name := by
          intro same
          exact fresh (List.mem_map.mpr ⟨other, member, same⟩)
        rw [SymbolTable.get?_insert_of_ne table different]
        exact missing other (List.mem_cons_of_mem _ member)

/-- Every problem with declarations is that of one of them, which some table rejects. -/
theorem rejection_of_mem_enterAll {table : SymbolTable} {declarations : List Declaration}
    {problem : Problem} (member : problem ∈ (enterAll table declarations).2) :
    ∃ declaration ∈ declarations, problem.offset = declaration.offset ∧
      ∃ reached, rejection? reached declaration = some problem.fault := by
  induction declarations generalizing table with
  | nil => cases member
  | cons declaration later ih =>
      cases rejected : rejection? table declaration with
      | none =>
          rw [enterAll_of_accepted rejected] at member
          obtain ⟨other, old, found⟩ := ih member
          exact ⟨other, List.mem_cons_of_mem _ old, found⟩
      | some fault =>
          rw [enterAll_of_rejection rejected] at member
          rcases List.mem_cons.mp member with rfl | member
          · exact ⟨declaration, List.mem_cons_self, rfl, table, rejected⟩
          · obtain ⟨other, old, found⟩ := ih member
            exact ⟨other, List.mem_cons_of_mem _ old, found⟩

/-- A rejection names the declaration, and is of the first kind. -/
theorem name?_of_rejection? {table : SymbolTable} {declaration : Declaration} {fault : Fault}
    (rejected : rejection? table declaration = some fault) :
    fault.name? = some declaration.name ∧ fault.category = .declarations := by
  rcases rejection?_cases table declaration with
    ⟨_, _, found⟩ | ⟨_, _, found⟩ | ⟨_, _, accepted⟩
  · cases rejected.symm.trans found
    exact ⟨rfl, rfl⟩
  · cases rejected.symm.trans found
    exact ⟨rfl, rfl⟩
  · cases rejected.symm.trans accepted

/-- The problems with declarations are of the first kind. -/
theorem category_of_mem_enterAll {table : SymbolTable} {declarations : List Declaration}
    {problem : Problem} (member : problem ∈ (enterAll table declarations).2) :
    problem.category = .declarations := by
  obtain ⟨_, _, _, _, rejected⟩ := rejection_of_mem_enterAll member
  exact (name?_of_rejection? rejected).2

end KarelLint.Diagnosis
