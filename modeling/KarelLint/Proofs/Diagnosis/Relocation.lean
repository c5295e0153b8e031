import Mathlib.Data.List.Nodup
import KarelLint.Proofs.Diagnosis.Limits
import KarelLint.Proofs.Source.LayoutSearch

/-! Reports at other positions. A check looks at positions only to tell a call from the parameter
list of a declaration, so texts in which the same things are found have the same report, up to a
map of the positions. Texts in different layouts are an instance. -/

set_option autoImplicit false

namespace KarelLint

/-! ## Moved tables -/

namespace OrderedMap

variable {κ α β : Type} [Ord κ]

/-- The same keys with changed values. -/
def mapValues (change : α → β) (map : OrderedMap κ α) : OrderedMap κ β where
  entries := map.entries.map fun entry => (entry.1, change entry.2)
  ascending := List.pairwise_map.mpr map.ascending

theorem get?_mapValues [BEq κ] (change : α → β) (map : OrderedMap κ α) (key : κ) :
    (map.mapValues change).get? key = (map.get? key).map change := by
  obtain ⟨entries, _⟩ := map
  simp only [mapValues, get?]
  clear * -
  induction entries with
  | nil => rfl
  | cons entry later ih =>
      rw [List.map_cons, List.lookup_cons, List.lookup_cons, ih]
      cases key == entry.1 with
      | true => rfl
      | false => rfl

theorem mapValues_insert [BEq κ] [LawfulBEq κ] [Std.LawfulEqOrd κ] [Std.TransOrd κ]
    (change : α → β) (map : OrderedMap κ α) (key : κ) (value : α) :
    (map.insert key value).mapValues change = (map.mapValues change).insert key (change value) := by
  apply ext_get?
  intro other
  rw [get?_mapValues, get?_insert, get?_insert, get?_mapValues]
  split
  · rfl
  · rfl

end OrderedMap

namespace Source

variable (move : Nat → Nat)

def Symbol.moved (symbol : Symbol) : Symbol :=
  { symbol with offset := move symbol.offset }

/-- The same procedures, declared at other positions. -/
def SymbolTable.moved (table : SymbolTable) : SymbolTable where
  signatures := table.signatures.mapValues fun signature =>
    { signature with offset := move signature.offset }

namespace SymbolTable

theorem get?_moved (table : SymbolTable) (name : String) :
    (table.moved move).get? name = (table.get? name).map (·.moved move) := by
  rw [get?, moved, OrderedMap.get?_mapValues, get?, Option.map_map, Option.map_map]
  rfl

theorem contains_moved (table : SymbolTable) (name : String) :
    (table.moved move).contains name = table.contains name := by
  rw [contains_eq_isSome_get?, contains_eq_isSome_get?, get?_moved, Option.isSome_map]

theorem moved_insert (table : SymbolTable) (symbol : Symbol) :
    (table.insert symbol).1.moved move = ((table.moved move).insert (symbol.moved move)).1 := by
  have same : (table.moved move).contains (symbol.moved move).name = table.contains symbol.name :=
    contains_moved move table symbol.name
  unfold insert
  rw [same]
  split
  · rfl
  · simp only [moved, OrderedMap.mapValues_insert]
    rfl

end SymbolTable

end Source

/-! ## Moved reports -/

namespace Diagnosis

open Source

/-- The same problem at another position. -/
def Problem.moved (move : Nat → Nat) (problem : Problem) : Problem :=
  { problem with offset := move problem.offset }

/-- The same table and the same problems in the same order, at other positions. -/
def Report.moved (move : Nat → Nat) (report : Report) : Report where
  table := report.table.moved move
  problems := report.problems.map (·.moved move)

variable {move : Nat → Nat}

theorem rejection?_moved (table : SymbolTable) (declaration : Declaration) :
    rejection? (table.moved move) (declaration.moved move) = rejection? table declaration := by
  rw [rejection?, rejection?, SymbolTable.contains_moved]
  rfl

theorem enterAll_moved (table : SymbolTable) (declarations : List Declaration) :
    enterAll (table.moved move) (declarations.map (·.moved move)) =
      ((enterAll table declarations).1.moved move,
        (enterAll table declarations).2.map (·.moved move)) := by
  induction declarations generalizing table with
  | nil => rfl
  | cons declaration later ih =>
      have same := @rejection?_moved move table declaration
      cases rejected : rejection? table declaration with
      | some fault =>
          rw [rejected] at same
          rw [List.map_cons, enterAll_of_rejection same, enterAll_of_rejection rejected, ih]
          rfl
      | none =>
          rw [rejected] at same
          have entered := ih (table.insert (declared declaration)).1
          rw [SymbolTable.moved_insert] at entered
          rw [List.map_cons, enterAll_of_accepted same, enterAll_of_accepted rejected]
          exact entered

theorem callFault?_moved {call other : Call} (moved : call.Moved move other)
    (table : SymbolTable) : callFault? (table.moved move) other = callFault? table call := by
  rw [callFault?, callFault?, moved.name, SymbolTable.get?_moved, moved.hasArguments]
  cases table.get? call.name with
  | none => rfl
  | some symbol =>
      simp only [Option.map_some, arityFault?, moved.name, moved.argumentCount]
      rfl

/-- A call is the parameter list of a declaration at its new position too, if the map keeps it
apart from the declarations at other positions. -/
theorem isParameterList_moved {declarations : List Declaration} {call other : Call}
    (moved : call.Moved move other)
    (apart : ∀ declaration ∈ declarations, move declaration.offset = move call.offset →
      declaration.offset = call.offset) :
    isParameterList (declarations.map (·.moved move)) other =
      isParameterList declarations call := by
  rw [Bool.eq_iff_iff]
  simp only [isParameterList, List.any_map, List.any_eq_true, Function.comp_apply,
    Declaration.moved, moved.offset, Bool.and_eq_true, beq_iff_eq]
  constructor
  · rintro ⟨declaration, member, parenthesized, same⟩
    exact ⟨declaration, member, parenthesized, apart declaration member same⟩
  · rintro ⟨declaration, member, parenthesized, same⟩
    exact ⟨declaration, member, parenthesized, congrArg move same⟩

theorem callProblems_moved {declarations : List Declaration} {calls others : List Call}
    (moved : List.Forall₂ (Call.Moved move) calls others)
    (apart : ∀ declaration ∈ declarations, ∀ call ∈ calls,
      move declaration.offset = move call.offset → declaration.offset = call.offset)
    (table : SymbolTable) :
    callProblems (declarations.map (·.moved move)) others (table.moved move) =
      (callProblems declarations calls table).map (·.moved move) := by
  induction moved with
  | nil => rfl
  | @cons call other calls others first _ ih =>
      have problem : callProblem? (declarations.map (·.moved move)) (table.moved move) other =
          (callProblem? declarations table call).map (·.moved move) := by
        rw [callProblem?, callProblem?, callFault?_moved first, first.offset,
          isParameterList_moved first fun declaration member =>
            apart declaration member call List.mem_cons_self]
        split
        · rfl
        · rw [Option.map_map]
          rfl
      have rest := ih fun declaration member call called =>
        apart declaration member call (List.mem_cons_of_mem _ called)
      unfold callProblems at rest ⊢
      cases found : callProblem? declarations table call with
      | none =>
          rw [found] at problem
          rw [List.filterMap_cons_none problem, List.filterMap_cons_none found, rest]
      | some old =>
          rw [found] at problem
          rw [List.filterMap_cons_some problem, List.filterMap_cons_some found, rest]
          rfl

/-- Texts in which the same things are found, at positions that a map relates. -/
structure Relocates (move : Nat → Nat) (text other : String) : Prop where
  characters : illegal other = (illegal text).map fun (offset, c) => (move offset, c)
  declared : declarations other = (declarations text).map (·.moved move)
  called : List.Forall₂ (Call.Moved move) (calls text) (calls other)
  apart : ∀ declaration ∈ declarations text, ∀ call ∈ calls text,
    move declaration.offset = move call.offset → declaration.offset = call.offset

theorem Relocates.check_eq {text other : String} (relocates : Relocates move text other)
    (limit : Nat) : check other limit = (check text limit).moved move := by
  have characters : characterProblems other = (characterProblems text).map (·.moved move) := by
    rw [characterProblems, relocates.characters, characterProblems, List.map_map, List.map_map]
    rfl
  have entered : tabulate (declarations other) =
      ((tabulate (declarations text)).1.moved move,
        (rejectedDeclarations text).map (·.moved move)) := by
    rw [relocates.declared]
    exact enterAll_moved ∅ (declarations text)
  have rejected : rejectedDeclarations other = (rejectedDeclarations text).map (·.moved move) := by
    rw [rejectedDeclarations, entered]
  have misused : misusedCalls other = (misusedCalls text).map (·.moved move) := by
    rw [misusedCalls, entered, relocates.declared]
    exact callProblems_moved relocates.called relocates.apart _
  rw [check_eq_take, check_eq_take, entered, characters, rejected, misused]
  simp [Report.moved, List.map_take]

/-! ## Other layouts -/

/-- The position in another text of the visible character at a position of a text: the visible
characters correspond in their order. -/
def relocation (text other : List Char) (offset : Nat) : Nat :=
  (((Text.visibleFrom 0 text).zip (Text.visibleFrom 0 other)).lookup offset).getD 0

theorem map_lookup_zip {keys values : List Nat} (distinct : keys.Nodup)
    (sameLength : keys.length = values.length) :
    keys.map (fun key => ((keys.zip values).lookup key).getD 0) = values := by
  induction keys generalizing values with
  | nil =>
      cases values with
      | nil => rfl
      | cons value values => cases sameLength
  | cons key keys ih =>
      cases values with
      | nil => cases sameLength
      | cons value values =>
          obtain ⟨fresh, distinct⟩ := List.nodup_cons.mp distinct
          have rest := ih distinct (by simpa using sameLength)
          have later : keys.map (fun other => (((key :: keys).zip (value :: values)).lookup
              other).getD 0) = values := by
            rw [← rest]
            apply List.map_congr_left
            intro other member
            have different : other ≠ key := fun same => fresh (same ▸ member)
            rw [rest, List.zip_cons_cons, OrderedMap.lookup_cons_of_ne different]
          rw [List.map_cons, later]
          simp

theorem carries_relocation {text other : List Char} (relaid : Text.Relaid text other) :
    Text.Carries (relocation text other) 0 text 0 other :=
  map_lookup_zip ((Text.visibleFrom_ascending 0 text).imp Nat.ne_of_lt)
    (relaid.length_visibleFrom 0 0)

theorem relocates_of_relaid {text other : String}
    (relaid : Text.Relaid text.toList other.toList)
    (carries : Text.Carries move 0 text.toList 0 other.toList) : Relocates move text other where
  characters := illegalFrom_relaid relaid carries
  declared := declarationsFrom_relaid relaid carries rfl
  called := callsFrom_relaid relaid carries rfl
  apart := by
    intro declaration declared call called same
    have distinct : ((Text.visibleFrom 0 text.toList).map move).Nodup := by
      rw [carries]
      exact (Text.visibleFrom_ascending 0 other.toList).imp Nat.ne_of_lt
    have first := (declarations_sublist text).subset (List.mem_map_of_mem declared)
    have second := (calls_sublist text).subset (List.mem_map_of_mem called)
    exact List.inj_on_of_nodup_map distinct first second same

/-- A check does not depend on the layout. In a text with other white space where there is white
space, it finds the same procedures and the same problems in the same order, at the positions of
the corresponding characters. -/
theorem check_relaid (text other : String) (limit : Nat)
    (relaid : Text.Relaid text.toList other.toList) :
    (Text.visibleFrom 0 text.toList).map (relocation text.toList other.toList) =
      Text.visibleFrom 0 other.toList ∧
    check other limit = (check text limit).moved (relocation text.toList other.toList) := by
  have carries := carries_relocation relaid
  exact ⟨carries, (relocates_of_relaid relaid carries).check_eq limit⟩

/-- A program with line feeds and spaces. -/
def spacedProgram : String :=
  "void go ( n ) \x7b\n  go(1, 2);\n  jump();\n\x7d\n"

/-- The same program with an ideographic space, tabs and carriage returns. -/
def tabbedProgram : String :=
  "void\u3000go (\tn ) \x7b\r\n\tgo(1,\t2);\r\n\tjump();\r\n\x7d\r\n"

theorem check_relaid_tabbedProgram :
    Text.Relaid spacedProgram.toList tabbedProgram.toList ∧
    (check spacedProgram 9).problems =
      [⟨22, .illegalCharacter ','⟩, ⟨18, .tooManyParameters "go"⟩, ⟨30, .undeclared "jump"⟩] ∧
    (check tabbedProgram 9).problems =
      [⟨24, .illegalCharacter ','⟩, ⟨20, .tooManyParameters "go"⟩, ⟨32, .undeclared "jump"⟩] ∧
    check tabbedProgram 9 =
      (check spacedProgram 9).moved (relocation spacedProgram.toList tabbedProgram.toList) :=
  ⟨by decide +kernel, by decide +kernel, by decide +kernel,
    (check_relaid spacedProgram tabbedProgram 9 (by decide)).2⟩

end Diagnosis

end KarelLint
