import KarelLint.Text.Blank
import KarelLint.Text.Offset
import KarelLint.Text.Place

/-! Positions in a text that starts at a byte offset: the positions of its characters other than
white space, and the positions at which some part of it stands. -/

set_option autoImplicit false

namespace KarelLint.Text

/-! ## Visible characters -/

/-- The positions of the characters other than white space. -/
def visibleFrom (offset : Nat) : List Char → List Nat
  | [] => []
  | c :: rest =>
      if isBlank c then visibleFrom (offset + c.utf8Size) rest
      else offset :: visibleFrom (offset + c.utf8Size) rest

section Visible

variable {c : Char} {offset : Nat} {rest : List Char}

@[simp] theorem visibleFrom_nil : visibleFrom offset [] = [] := rfl

@[simp] theorem visibleFrom_cons_of_blank (blank : isBlank c = true) :
    visibleFrom offset (c :: rest) = visibleFrom (offset + c.utf8Size) rest := by
  rw [visibleFrom, if_pos blank]

@[simp] theorem visibleFrom_cons_of_visible (visible : isBlank c = false) :
    visibleFrom offset (c :: rest) = offset :: visibleFrom (offset + c.utf8Size) rest := by
  rw [visibleFrom, if_neg (by simp [visible])]

end Visible

theorem visibleFrom_append (offset : Nat) (left right : List Char) :
    visibleFrom offset (left ++ right) =
      visibleFrom offset left ++ visibleFrom (offset + byteLength left) right := by
  induction left generalizing offset with
  | nil => simp
  | cons c left ih =>
      rw [List.cons_append]
      cases visible : isBlank c with
      | true => simp [visible, ih, Nat.add_assoc]
      | false => simp [visible, ih, Nat.add_assoc]

theorem visibleFrom_eq_nil {blanks : List Char} (blank : ∀ c ∈ blanks, isBlank c = true)
    (offset : Nat) : visibleFrom offset blanks = [] := by
  induction blanks generalizing offset with
  | nil => rfl
  | cons c blanks ih =>
      rw [visibleFrom_cons_of_blank (blank c List.mem_cons_self)]
      exact ih (fun d member => blank d (List.mem_cons_of_mem _ member)) _

theorem le_of_mem_visibleFrom {offset position : Nat} {text : List Char}
    (member : position ∈ visibleFrom offset text) : offset ≤ position := by
  induction text generalizing offset with
  | nil => cases member
  | cons c rest ih =>
      cases visible : isBlank c with
      | true =>
          rw [visibleFrom_cons_of_blank visible] at member
          have later := ih member
          omega
      | false =>
          rw [visibleFrom_cons_of_visible visible] at member
          rcases List.mem_cons.mp member with same | later
          · omega
          · have later := ih later
            omega

theorem visibleFrom_ascending (offset : Nat) (text : List Char) :
    (visibleFrom offset text).Pairwise (· < ·) := by
  induction text generalizing offset with
  | nil => exact .nil
  | cons c rest ih =>
      cases visible : isBlank c with
      | true =>
          rw [visibleFrom_cons_of_blank visible]
          exact ih _
      | false =>
          rw [visibleFrom_cons_of_visible visible]
          refine List.pairwise_cons.mpr ⟨?_, ih _⟩
          intro position member
          have later := le_of_mem_visibleFrom member
          have wide : 0 < c.utf8Size := c.utf8Size_pos
          omega

/-- A list in ascending order of positions is determined by its members. -/
theorem eq_of_ascending {α : Type} {position : α → Nat} {left right : List α}
    (ascending : left.Pairwise fun earlier later => position earlier < position later)
    (ascending' : right.Pairwise fun earlier later => position earlier < position later)
    (same : ∀ item, item ∈ left ↔ item ∈ right) : left = right := by
  have distinct {items : List α}
      (ascending : items.Pairwise fun earlier later => position earlier < position later) :
      items.Nodup :=
    ascending.imp fun before => by rintro rfl; exact Nat.lt_irrefl _ before
  have permuted : left.Perm right :=
    (List.perm_ext_iff_of_nodup (distinct ascending) (distinct ascending')).mpr same
  refine permuted.eq_of_pairwise ?_ ascending ascending'
  intro item other _ _ before after
  omega

/-! ## Parts -/

/-- Two cuts of a text at one offset are the same. -/
theorem append_inj_of_byteLength {front front' rest rest' : List Char}
    (same : front ++ rest = front' ++ rest') (size : byteLength front = byteLength front') :
    front = front' ∧ rest = rest' := by
  have left := cut?_byteLength_append front rest
  rw [same, size, cut?_byteLength_append] at left
  cases left
  exact ⟨rfl, rfl⟩

/-- Of two cuts of a text, the earlier one also cuts what stands before the later one. -/
theorem exists_between_cuts {left right left' right' : List Char}
    (same : left ++ right = left' ++ right') (le : byteLength left ≤ byteLength left') :
    ∃ between, left' = left ++ between ∧ right = between ++ right' := by
  rcases List.append_eq_append_iff.mp same with ⟨between, first, second⟩ | ⟨between, rfl, rfl⟩
  · exact ⟨between, first, second⟩
  · cases between with
    | nil => exact ⟨[], by simp, by simp⟩
    | cons c between =>
        have positive := c.utf8Size_pos
        simp only [byteLength_append, byteLength_cons] at le
        omega

/-- The characters between two byte offsets. There are none where the text cannot be cut. -/
def slice? (text : List Char) (start stop : Nat) : Option (List Char) := do
  let (_, after) ← cut? start text
  let (part, _) ← cut? (stop - start) after
  return part

/-- A part of a text, which itself starts at `start`, begins at an offset. -/
def StandsAt (start : Nat) (text : List Char) (offset : Nat) (part : List Char) : Prop :=
  ∃ before after, text = before ++ (part ++ after) ∧ offset = start + byteLength before

namespace StandsAt

theorem here (start : Nat) (part after : List Char) :
    StandsAt start (part ++ after) start part :=
  ⟨[], after, rfl, by simp⟩

theorem append {start offset : Nat} {left right part : List Char}
    (stands : StandsAt (start + byteLength left) right offset part) :
    StandsAt start (left ++ right) offset part := by
  obtain ⟨before, after, rfl, rfl⟩ := stands
  exact ⟨left ++ before, after, by simp, by simp [Nat.add_assoc]⟩

theorem cons {start offset : Nat} {c : Char} {rest part : List Char}
    (stands : StandsAt (start + c.utf8Size) rest offset part) :
    StandsAt start (c :: rest) offset part :=
  @append start offset [c] rest part (by simpa using stands)

variable {text : List Char} {offset : Nat} {part : List Char}

/-- The text can be cut before a part that stands in it, and after it. -/
theorem cut (stands : StandsAt 0 text offset part) :
    (cut? offset text).isSome = true ∧
      (cut? (offset + byteLength part) text).isSome = true := by
  obtain ⟨before, after, rfl, rfl⟩ := stands
  constructor
  · simp [cut?_byteLength_append]
  · have size : 0 + byteLength before + byteLength part = byteLength (before ++ part) := by simp
    rw [size, ← List.append_assoc, cut?_byteLength_append]
    rfl

theorem within (stands : StandsAt 0 text offset part) :
    offset + byteLength part ≤ byteLength text := by
  obtain ⟨before, after, rfl, rfl⟩ := stands
  simp

theorem slice (stands : StandsAt 0 text offset part) :
    slice? text offset (offset + byteLength part) = some part := by
  obtain ⟨before, after, rfl, rfl⟩ := stands
  simp [slice?, cut?_byteLength_append]

theorem of_slice? (sliced : slice? text offset (offset + byteLength part) = some part) :
    StandsAt 0 text offset part := by
  obtain ⟨⟨before, after⟩, first, sliced⟩ := Option.bind_eq_some_iff.mp sliced
  obtain ⟨⟨inner, rest⟩, second, same⟩ := Option.bind_eq_some_iff.mp sliced
  cases same
  obtain ⟨rfl, size⟩ := cut?_eq_some first
  obtain ⟨rfl, _⟩ := cut?_eq_some second
  exact ⟨before, rest, rfl, by simp [size]⟩

end StandsAt

/-- An offset at which a text can be cut has a place, in characters and in UTF-16 units. -/
theorem places_of_cut {text : List Char} {offset : Nat}
    (inside : (cut? offset text).isSome = true) :
    (characterPlace? text offset).isSome = true ∧ (unitPlace? text offset).isSome = true := by
  simp [characterPlace?, unitPlace?, upTo?, inside]

end KarelLint.Text
