import KarelLint.OrderedMap.Lookup
import KarelLint.Proofs.Text.ByteOrder
import KarelLint.Source.SymbolTable
import Mathlib.Data.Finset.Card

/-! Tables of procedures. A table is known by its look-ups, and of the symbols that are entered in it
the first of each name stays, so the table does not depend on the order in which different names
come. -/

set_option autoImplicit false

namespace KarelLint.Source.SymbolTable

/-! ## Look-ups -/

theorem contains_eq_isSome_get? (table : SymbolTable) (name : String) :
    table.contains name = (table.get? name).isSome := by
  rw [contains, OrderedMap.contains, get?, Option.isSome_map]

theorem name_of_get? {table : SymbolTable} {name : String} {symbol : Symbol}
    (found : table.get? name = some symbol) : symbol.name = name := by
  obtain ⟨signature, _, rfl⟩ := Option.map_eq_some_iff.mp found
  rfl

/-- Tables with the same look-ups are equal. -/
theorem ext_get? {left right : SymbolTable} (same : ∀ name, left.get? name = right.get? name) :
    left = right := by
  obtain ⟨signatures⟩ := left
  obtain ⟨signatures'⟩ := right
  congr 1
  apply OrderedMap.ext_get?
  intro name
  apply Option.map_injective _ (same name)
  intro first second equal
  exact congrArg Symbol.toSignature equal

theorem get?_of_mem_toList {table : SymbolTable} {symbol : Symbol}
    (member : symbol ∈ table.toList) : table.get? symbol.name = some symbol := by
  obtain ⟨⟨name, signature⟩, entry, rfl⟩ := List.mem_map.mp member
  have found : table.signatures.get? name = some signature :=
    OrderedMap.lookup_of_mem table.signatures.ascending entry
  rw [get?, found]
  rfl

theorem mem_toList_of_get? {table : SymbolTable} {name : String} {symbol : Symbol}
    (found : table.get? name = some symbol) : symbol ∈ table.toList := by
  obtain ⟨signature, held, rfl⟩ := Option.map_eq_some_iff.mp found
  exact List.mem_map.mpr ⟨_, OrderedMap.mem_of_lookup held, rfl⟩

/-! ## The list of names -/

theorem names_eq_map_toList (table : SymbolTable) : table.names = table.toList.map (·.name) := by
  rw [names, OrderedMap.keys, toList, List.map_map]
  rfl

theorem mem_names_iff {table : SymbolTable} {name : String} :
    name ∈ table.names ↔ ∃ symbol, table.get? name = some symbol := by
  rw [names_eq_map_toList, List.mem_map]
  constructor
  · intro listed
    obtain ⟨symbol, member, rfl⟩ := listed
    exact ⟨symbol, get?_of_mem_toList member⟩
  · intro found
    obtain ⟨symbol, found⟩ := found
    exact ⟨symbol, mem_toList_of_get? found, name_of_get? found⟩

theorem names_ascending (table : SymbolTable) :
    table.names.Pairwise fun left right => Text.BytesBelow (Text.bytes left) (Text.bytes right) := by
  rw [names, OrderedMap.keys, List.pairwise_map]
  exact table.signatures.ascending.imp Text.bytesBelow_of_compare

/-! ## Entering one symbol -/

/-- A symbol is turned away because its name is taken, or it is entered. -/
theorem insert_cases (table : SymbolTable) (symbol : Symbol) :
    ((∃ holder, table.get? symbol.name = some holder) ∧ table.insert symbol = (table, false)) ∨
    (table.get? symbol.name = none ∧
      table.insert symbol =
        ({ signatures := table.signatures.insert symbol.name symbol.toSignature }, true)) := by
  unfold insert
  rw [contains_eq_isSome_get?]
  cases table.get? symbol.name with
  | some holder => exact .inl ⟨⟨holder, rfl⟩, rfl⟩
  | none => exact .inr ⟨rfl, rfl⟩

theorem get?_insert_self {table : SymbolTable} {symbol : Symbol}
    (missing : table.get? symbol.name = none) :
    (table.insert symbol).1.get? symbol.name = some symbol := by
  rcases table.insert_cases symbol with ⟨⟨holder, held⟩, _⟩ | ⟨_, entered⟩
  · cases missing.symm.trans held
  · rw [entered, get?, OrderedMap.get?_insert_self]
    rfl

theorem get?_insert_of_ne (table : SymbolTable) {symbol : Symbol} {name : String}
    (different : name ≠ symbol.name) :
    (table.insert symbol).1.get? name = table.get? name := by
  rcases table.insert_cases symbol with ⟨_, refused⟩ | ⟨_, entered⟩
  · rw [refused]
  · rw [entered, get?, get?, OrderedMap.get?_insert_of_ne _ different]

/-- What a name has stays, and a name that has nothing takes the symbol if it is its own. -/
theorem get?_insert (table : SymbolTable) (symbol : Symbol) (name : String) :
    (table.insert symbol).1.get? name =
      (table.get? name).or (if symbol.name == name then some symbol else none) := by
  by_cases same : symbol.name = name
  · subst same
    rw [beq_self_eq_true, if_pos rfl]
    cases held : table.get? symbol.name with
    | none => exact get?_insert_self held
    | some holder =>
        rcases table.insert_cases symbol with ⟨_, refused⟩ | ⟨missing, _⟩
        · rw [refused]
          exact held
        · cases held.symm.trans missing
  · have other : (symbol.name == name) = false := beq_eq_false_iff_ne.mpr same
    rw [other, if_neg Bool.false_ne_true, Option.or_none]
    exact get?_insert_of_ne table fun equal => same equal.symm

theorem size_insert_of_missing {table : SymbolTable} {symbol : Symbol}
    (missing : table.get? symbol.name = none) :
    (table.insert symbol).1.size = table.size + 1 := by
  have absent : table.signatures.get? symbol.name = none := by simpa [get?] using missing
  rcases table.insert_cases symbol with ⟨⟨holder, held⟩, _⟩ | ⟨_, entered⟩
  · cases missing.symm.trans held
  · rw [entered]
    exact OrderedMap.size_insert_of_missing absent _

/-! ## Entering symbols one after the other -/

theorem get?_foldl_insert (table : SymbolTable) (symbols : List Symbol) (name : String) :
    (symbols.foldl (fun table symbol => (table.insert symbol).1) table).get? name =
      (table.get? name).or (symbols.find? fun symbol => symbol.name == name) := by
  -- What the table holds comes before all symbols that are still to be entered.
  induction symbols generalizing table with
  | nil => exact (Option.or_none).symm
  | cons symbol later ih =>
      rw [List.foldl_cons, ih, get?_insert, Option.or_assoc, List.find?_cons]
      cases symbol.name == name with
      | true => rfl
      | false => rfl

/-- A name has the first symbol that was entered under it. -/
theorem get?_ofList (symbols : List Symbol) (name : String) :
    (ofList symbols).get? name = symbols.find? fun symbol => symbol.name == name := by
  rw [ofList, get?_foldl_insert]
  rfl

theorem ofList_concat (symbols : List Symbol) (symbol : Symbol) :
    ofList (symbols ++ [symbol]) = ((ofList symbols).insert symbol).1 :=
  List.foldl_concat ..

theorem get?_ofList_eq_none_iff {symbols : List Symbol} {name : String} :
    (ofList symbols).get? name = none ↔ ∀ symbol ∈ symbols, symbol.name ≠ name := by
  rw [get?_ofList, List.find?_eq_none]
  simp

theorem mem_names_ofList_iff {symbols : List Symbol} {name : String} :
    name ∈ (ofList symbols).names ↔ name ∈ symbols.map (·.name) := by
  rw [mem_names_iff, ← Option.ne_none_iff_exists', ne_eq, get?_ofList_eq_none_iff]
  simp

/-- The names of a table are different, so their number is that of the names that were entered. -/
theorem size_ofList (symbols : List Symbol) :
    (ofList symbols).size = (symbols.map (·.name)).toFinset.card := by
  have listed : (ofList symbols).names.toFinset = (symbols.map (·.name)).toFinset := by
    ext name
    rw [List.mem_toFinset, List.mem_toFinset, mem_names_ofList_iff]
  calc
    (ofList symbols).size = (ofList symbols).names.length := (List.length_map _).symm
    _ = (ofList symbols).names.toFinset.card :=
        (List.toFinset_card_of_nodup (OrderedMap.nodup_keys _)).symm
    _ = (symbols.map (·.name)).toFinset.card := by rw [listed]

theorem insert_ofList_accepts_iff {symbols : List Symbol} {symbol : Symbol} :
    ((ofList symbols).insert symbol).2 = true ↔ ∀ other ∈ symbols, other.name ≠ symbol.name := by
  rw [← get?_ofList_eq_none_iff]
  rcases (ofList symbols).insert_cases symbol with ⟨⟨holder, held⟩, refused⟩ | ⟨missing, entered⟩
  · simp [held, refused]
  · simp [missing, entered]

theorem insert_eq_of_refused {table : SymbolTable} {symbol : Symbol}
    (refused : (table.insert symbol).2 = false) : (table.insert symbol).1 = table := by
  rcases table.insert_cases symbol with ⟨_, unchanged⟩ | ⟨_, entered⟩
  · rw [unchanged]
  · rw [entered] at refused
    cases refused

/-- The symbols of a table are listed in the order of the bytes of their names, so none comes
twice. -/
theorem toList_ascending (table : SymbolTable) :
    table.toList.Pairwise fun earlier later =>
      Text.BytesBelow (Text.bytes earlier.name) (Text.bytes later.name) := by
  have ascending := table.names_ascending
  rwa [names_eq_map_toList, List.pairwise_map] at ascending

theorem nodup_toList (table : SymbolTable) : table.toList.Nodup := by
  have distinct : table.names.Nodup := OrderedMap.nodup_keys _
  rw [names_eq_map_toList] at distinct
  exact distinct.of_map

/-- Of the symbols that are entered one after the other, a table holds the first of each name and no
other, in the order of the names. A symbol that comes next is taken exactly if its name is new. Which
symbols come first for their names is all that matters, and not their order. -/
theorem first_of_each_name_kept (symbols : List Symbol) :
    let table := ofList symbols
    (∀ name, table.get? name = symbols.find? fun symbol => symbol.name == name) ∧
    (∀ name symbol, table.get? name = some symbol → symbol.name = name) ∧
    (∀ symbol, (table.insert symbol).1 = ofList (symbols ++ [symbol]) ∧
      ((table.insert symbol).2 = true ↔ ∀ other ∈ symbols, other.name ≠ symbol.name) ∧
      ((table.insert symbol).2 = false → (table.insert symbol).1 = table)) ∧
    (∀ name, table.contains name = true ↔ ∃ symbol, table.get? name = some symbol) ∧
    (∀ symbol, symbol ∈ table.toList ↔ table.get? symbol.name = some symbol) ∧
    (table.toList.Pairwise fun earlier later =>
      Text.BytesBelow (Text.bytes earlier.name) (Text.bytes later.name)) ∧
    table.toList.Nodup ∧
    table.names = table.toList.map (·.name) ∧
    table.size = (symbols.map (·.name)).toFinset.card ∧
    ∀ others : List Symbol,
      (∀ name, (others.find? fun symbol => symbol.name == name) =
        symbols.find? fun symbol => symbol.name == name) →
      ofList others = table := by
  intro table
  refine ⟨get?_ofList symbols, fun _ _ => name_of_get?, ?next, ?contained, ?listed,
    table.toList_ascending, table.nodup_toList, table.names_eq_map_toList, size_ofList symbols, ?order⟩
  case next =>
    intro symbol
    exact ⟨(ofList_concat symbols symbol).symm, insert_ofList_accepts_iff, insert_eq_of_refused⟩
  case contained =>
    intro name
    rw [contains_eq_isSome_get?, Option.isSome_iff_exists]
  case listed =>
    intro symbol
    exact ⟨get?_of_mem_toList, mem_toList_of_get?⟩
  case order =>
    intro others same
    apply ext_get?
    intro name
    rw [get?_ofList, same, ← get?_ofList]

/-- Procedures of which two have the same name. -/
def repeatedSymbols : List Symbol :=
  [⟨⟨.nullary, 7⟩, "step"⟩, ⟨⟨.unary, 40⟩, "é"⟩, ⟨⟨.unary, 55⟩, "step"⟩, ⟨⟨.nullary, 70⟩, "Step"⟩]

/-- The same procedures in another order, and with other repetitions. -/
def reorderedSymbols : List Symbol :=
  [⟨⟨.nullary, 70⟩, "Step"⟩, ⟨⟨.unary, 40⟩, "é"⟩, ⟨⟨.nullary, 90⟩, "é"⟩, ⟨⟨.nullary, 7⟩, "step"⟩]

theorem find?_reorderedSymbols (name : String) :
    (reorderedSymbols.find? fun symbol => symbol.name == name) =
      repeatedSymbols.find? fun symbol => symbol.name == name := by
  by_cases step : "step" = name
  · subst step
    decide
  · by_cases accented : "é" = name
    · subst accented
      decide
    · by_cases capital : "Step" = name
      · subst capital
        decide
      · simp [reorderedSymbols, repeatedSymbols, step, accented, capital]

theorem first_of_each_name_kept_reorderedSymbols :
    (ofList repeatedSymbols).toList =
      [⟨⟨.nullary, 70⟩, "Step"⟩, ⟨⟨.nullary, 7⟩, "step"⟩, ⟨⟨.unary, 40⟩, "é"⟩] ∧
    ((ofList repeatedSymbols).insert ⟨⟨.unary, 95⟩, "é"⟩).1 = ofList repeatedSymbols ∧
    ofList reorderedSymbols = ofList repeatedSymbols := by
  obtain ⟨_, _, next, _, _, _, _, _, _, order⟩ := first_of_each_name_kept repeatedSymbols
  exact ⟨by decide, (next _).2.2 (by decide), order _ find?_reorderedSymbols⟩

end KarelLint.Source.SymbolTable
