import KarelLint.Proofs.Source.Headings
import KarelLint.Proofs.Text.Positions

/-! Where the searches of a text find something: at visible characters, from left to right, and
what is found stands in the text. -/

set_option autoImplicit false

namespace KarelLint.Source

open Text

/-! ## Illegal characters -/

theorem isBlank_of_not_isLegal {c : Char} (illegal : isLegal c = false) : isBlank c = false := by
  simp only [isLegal, Bool.or_eq_false_iff] at illegal
  exact illegal.1.1.2

theorem illegalFrom_sublist (offset : Nat) (text : List Char) :
    ((illegalFrom offset text).map (·.1)).Sublist (visibleFrom offset text) := by
  induction text generalizing offset with
  | nil => exact .slnil
  | cons c rest ih =>
      cases legal : isLegal c with
      | true =>
          rw [illegalFrom, if_pos legal]
          cases visible : isBlank c with
          | true => simpa [visible] using ih (offset + c.utf8Size)
          | false => simpa [visible] using (ih (offset + c.utf8Size)).cons offset
      | false =>
          rw [illegalFrom, if_neg (by simp [legal]),
            visibleFrom_cons_of_visible (isBlank_of_not_isLegal legal)]
          exact (ih (offset + c.utf8Size)).cons_cons offset

theorem standsAt_of_mem_illegalFrom {offset position : Nat} {c : Char} {text : List Char}
    (member : (position, c) ∈ illegalFrom offset text) :
    StandsAt offset text position [c] ∧ isLegal c = false := by
  induction text generalizing offset with
  | nil => cases member
  | cons d rest ih =>
      cases legal : isLegal d with
      | true =>
          rw [illegalFrom, if_pos legal] at member
          obtain ⟨stands, illegal⟩ := ih member
          exact ⟨stands.cons, illegal⟩
      | false =>
          rw [illegalFrom, if_neg (by simp [legal])] at member
          rcases List.mem_cons.mp member with same | later
          · obtain ⟨rfl, rfl⟩ := Prod.mk.inj same
            exact ⟨.here _ [_] rest, legal⟩
          · obtain ⟨stands, illegal⟩ := ih later
            exact ⟨stands.cons, illegal⟩

/-! ## Calls -/

/-- A call starts with the identifier that is its name. -/
theorem isIdentifier_of_callHead? {before : Option Char} {text name arguments : List Char}
    (found : callHead? before text = some (name, arguments)) :
    IsIdentifier name ∧ ∃ rest, text = name ++ rest := by
  obtain ⟨_, inner, identified, _⟩ := callHead?_eq_some_iff.mp found
  obtain ⟨identifier, split, _⟩ := identifier?_eq_some identified
  exact ⟨identifier, _, split⟩

theorem callsFrom_sublist (before : Option Char) (offset : Nat) (text : List Char) :
    ((callsFrom before offset text).map (·.offset)).Sublist (visibleFrom offset text) := by
  induction text generalizing before offset with
  | nil => exact .slnil
  | cons c rest ih =>
      have later := ih (some c) (offset + c.utf8Size)
      cases found : callHead? before (c :: rest) with
      | none =>
          rw [callsFrom_of_none found]
          cases visible : isBlank c with
          | true => simpa [visible] using later
          | false => simpa [visible] using later.cons offset
      | some head =>
          obtain ⟨identifier, tail, split⟩ := isIdentifier_of_callHead? found
          obtain ⟨first, more, named, part⟩ := identifier.exists_cons
          rw [named, List.cons_append] at split
          obtain ⟨rfl, _⟩ := List.cons.inj split
          rw [callsFrom, found, visibleFrom_cons_of_visible (isBlank_of_isIdentifierPart part)]
          exact later.cons_cons offset

theorem standsAt_of_mem_callsFrom {before : Option Char} {offset : Nat} {text : List Char}
    {call : Call} (member : call ∈ callsFrom before offset text) :
    StandsAt offset text call.offset call.name.toList ∧ IsIdentifier call.name.toList := by
  induction text generalizing before offset with
  | nil => cases member
  | cons c rest ih =>
      cases found : callHead? before (c :: rest) with
      | none =>
          rw [callsFrom_of_none found] at member
          obtain ⟨stands, identifier⟩ := ih member
          exact ⟨stands.cons, identifier⟩
      | some head =>
          rw [callsFrom, found] at member
          rcases List.mem_cons.mp member with rfl | later
          · obtain ⟨identifier, tail, split⟩ := isIdentifier_of_callHead? found
            simp only [String.toList_ofList]
            exact ⟨split ▸ .here offset head.1 tail, identifier⟩
          · obtain ⟨stands, identifier⟩ := ih later
            exact ⟨stands.cons, identifier⟩

/-! ## Declarations -/

/-- The name of a heading stands in it after the declarator and the white space. -/
theorem Heading.standsAt_name (heading : Heading) (offset : Nat) (rest : List Char) :
    StandsAt offset (heading.written ++ rest) (heading.declaration offset).offset
      heading.name := by
  rw [Heading.written, List.append_assoc, List.append_assoc]
  exact (StandsAt.here _ _ _).append

theorem isIdentifier_of_heading? {before : Option Char} {text : List Char} {heading : Heading}
    (found : heading? before text = some heading) : IsIdentifier heading.name := by
  obtain ⟨_, _, _, _, _, _, _, identifier, _⟩ := heading?_eq_some_iff.mp found
  exact identifier

namespace Search

variable {before : Option Char} {offset : Nat} {text : List Char} {found : List Declaration}

theorem sublist (search : Search before offset text found) :
    (found.map (·.offset)).Sublist (visibleFrom offset text) := by
  induction search with
  | done => exact .slnil
  | @pass _ offset c _ _ _ _ ih =>
      cases visible : isBlank c with
      | true => simpa [visible] using ih
      | false => simpa [visible] using ih.cons offset
  | @heading _ offset heading rest found read _ ih =>
      obtain ⟨first, tail, named, part⟩ := (isIdentifier_of_heading? read).exists_cons
      have visible : isBlank first = false := isBlank_of_isIdentifierPart part
      have inside : offset + byteLength heading.lead ∈ visibleFrom offset heading.written := by
        simp [Heading.written, visibleFrom_append, named, visible]
      rw [List.map_cons, visibleFrom_append]
      exact (List.singleton_sublist.mpr inside).append ih

theorem standsAt (search : Search before offset text found) {declaration : Declaration}
    (member : declaration ∈ found) :
    StandsAt offset text declaration.offset declaration.name.toList ∧
      IsIdentifier declaration.name.toList := by
  induction search with
  | done => cases member
  | pass _ _ ih =>
      obtain ⟨stands, identifier⟩ := ih member
      exact ⟨stands.cons, identifier⟩
  | @heading _ offset heading rest found read _ ih =>
      rcases List.mem_cons.mp member with rfl | later
      · have named : (heading.declaration offset).name.toList = heading.name :=
          String.toList_ofList
        rw [named]
        exact ⟨heading.standsAt_name offset rest, isIdentifier_of_heading? read⟩
      · obtain ⟨stands, identifier⟩ := ih later
        exact ⟨stands.append, identifier⟩

end Search

/-! ## Findings at other positions -/

/-- The same declaration at another position. -/
def Declaration.moved (move : Nat → Nat) (declaration : Declaration) : Declaration :=
  { declaration with offset := move declaration.offset }

/-- The same call at another position, with arguments that count alike. -/
structure Call.Moved (move : Nat → Nat) (call other : Call) : Prop where
  name : other.name = call.name
  offset : other.offset = move call.offset
  hasArguments : other.hasArguments = call.hasArguments
  argumentCount : other.argumentCount = call.argumentCount

end KarelLint.Source
