import KarelLint.Proofs.Diagnosis.Limits
import KarelLint.Proofs.Diagnosis.Rejections

/-! What an editor offers to complete a word. The built-in words are reserved and the table of a
program holds no reserved name, so no word is offered twice. Telling more about an item only fills in
what is known of a built-in word. -/

set_option autoImplicit false

namespace KarelLint

namespace Diagnosis

open KarelLint.Source

theorem mem_names_check_iff {text : String} {limit : Nat} {name : String} :
    name ∈ (check text limit).table.names ↔
      isReserved name = false ∧ ∃ declaration ∈ declarations text, declaration.name = name := by
  rw [SymbolTable.mem_names_iff, check_eq_take, get?_tabulate, ← Option.isSome_iff_exists,
    Option.isSome_iff_ne_none, ne_eq, firstDeclared?_eq_none_iff, not_or]
  simp

end Diagnosis

/-! ## Telling more about an item -/

namespace Session.CompletionItem

open KarelLint.Source KarelLint.Diagnosis

section Resolve

variable {item : CompletionItem}

theorem resolve_of_unknown (unknown : item.builtin? = none) : item.resolve = item := by
  rw [resolve, unknown]

theorem resolve_of_builtin {builtin : Builtin} (known : item.builtin? = some builtin) :
    item.resolve =
      { item with
        detail := builtin.detail <|> item.detail
        documentation := builtin.documentation.map .text <|> item.documentation } := by
  rw [resolve, known]

theorem resolve_resolve (item : CompletionItem) : item.resolve.resolve = item.resolve := by
  cases known : item.builtin? with
  | none => rw [resolve_of_unknown known, resolve_of_unknown known]
  | some builtin =>
      -- The item keeps its data, so it still stands for the same built-in word.
      have again : item.resolve.builtin? = some builtin := by
        rw [resolve_of_builtin known]
        exact known
      rw [resolve_of_builtin again, resolve_of_builtin known]
      cases builtin with
      | mk name detail documentation =>
          cases detail <;> cases documentation <;> rfl

theorem eq_of_resolve (item : CompletionItem) :
    { item.resolve with detail := item.detail, documentation := item.documentation } = item := by
  cases known : item.builtin? with
  | none => rw [resolve_of_unknown known]
  | some builtin => rw [resolve_of_builtin known]

theorem resolve_ofSymbol (symbol : Symbol) : (ofSymbol symbol).resolve = ofSymbol symbol :=
  resolve_of_unknown rfl

end Resolve

/-! ## The offers for a text -/

/-- The offers for the procedures of some declarations: one for each name that is declared and not
reserved, in the order of the names, with a sample call that has an argument if the first declaration
of the name has a parameter. -/
structure OffersProcedures (declarations : List Declaration) (items : List CompletionItem) :
    Prop where
  named : ∀ name, name ∈ items.map (·.label) ↔
    isReserved name = false ∧ ∃ declaration ∈ declarations, declaration.name = name
  ascending : items.Pairwise fun earlier later =>
    Text.BytesBelow (Text.bytes earlier.label) (Text.bytes later.label)
  detail : ∀ item ∈ items, ∃ earlier first later, declarations = earlier ++ first :: later ∧
    first.name = item.label ∧ (∀ other ∈ earlier, other.name ≠ item.label) ∧
    item.detail = some (item.label ++ if first.parameter.isSome then "(n)" else "()")
  resolved : ∀ item ∈ items, item.resolve = item

theorem labels_ofSymbol (table : SymbolTable) :
    (table.toList.map ofSymbol).map (·.label) = table.names := by
  rw [SymbolTable.names_eq_map_toList, List.map_map]
  rfl

theorem offersProcedures_check (text : String) (limit : Nat) :
    OffersProcedures (declarations text) ((check text limit).table.toList.map ofSymbol) := by
  constructor
  case named =>
    intro name
    rw [labels_ofSymbol]
    exact mem_names_check_iff
  case ascending =>
    have ascending := (check text limit).table.names_ascending
    rwa [← labels_ofSymbol, List.pairwise_map] at ascending
  case detail =>
    intro item member
    obtain ⟨symbol, listed, rfl⟩ := List.mem_map.mp member
    have found := SymbolTable.get?_of_mem_toList listed
    rw [check_eq_take] at found
    obtain ⟨earlier, first, later, split, same, different, rfl⟩ := get?_tabulate_eq_some found
    refine ⟨earlier, first, later, split, same, different, ?_⟩
    cases parameter : first.parameter with
    | none => simp [ofSymbol, declared, parameter]
    | some name => simp [ofSymbol, declared, parameter]
  case resolved =>
    intro item member
    obtain ⟨symbol, _, rfl⟩ := List.mem_map.mp member
    exact resolve_ofSymbol symbol

theorem isReserved_builtins : ∀ builtin ∈ builtins, isReserved builtin.name = true := by
  decide

theorem nodup_labels (text : String) (limit : Nat) :
    ((all (some (check text limit).table)).map (·.label)).Nodup := by
  have split : (all (some (check text limit).table)).map (·.label) =
      builtins.map (·.name) ++ (check text limit).table.names := by
    rw [← labels_ofSymbol, all, List.map_append, List.map_map]
    rfl
  rw [split, List.nodup_append]
  refine ⟨by decide, OrderedMap.nodup_keys _, ?_⟩
  intro word offered name declared same
  obtain ⟨builtin, member, rfl⟩ := List.mem_map.mp offered
  obtain ⟨allowed, _⟩ := mem_names_check_iff.mp declared
  rw [← same, isReserved_builtins builtin member] at allowed
  cases allowed

/-- Every word that can be used is offered once: the built-in words in their order, and then the
procedures of the text. Telling more about an item changes nothing but its detail and documentation,
and telling it twice tells nothing new. -/
theorem words_offered_once (text : String) (limit : Nat) :
    (∃ procedures,
      all (some (check text limit).table) = builtins.map ofBuiltin ++ procedures ∧
      OffersProcedures (declarations text) procedures) ∧
    builtins.map (fun builtin => (ofBuiltin builtin).label) =
      ["move", "turnleft", "turnoff", "putbeeper", "pickbeeper", "succ", "pred", "iszero"] ∧
    ((all (some (check text limit).table)).map (·.label)).Nodup ∧
    ∀ item : CompletionItem, item.resolve.resolve = item.resolve ∧
      { item.resolve with detail := item.detail, documentation := item.documentation } = item :=
  ⟨⟨_, rfl, offersProcedures_check text limit⟩, rfl, nodup_labels text limit,
    fun item => ⟨item.resolve_resolve, item.eq_of_resolve⟩⟩

end Session.CompletionItem

end KarelLint
