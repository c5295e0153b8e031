/-! Byte offsets into a text encoded as UTF-8. An offset is meaningful when a character
starts there, or when it is the end of the text. -/

set_option autoImplicit false

namespace KarelLint.Text

/-- The number of bytes that a text occupies in UTF-8. -/
def byteLength : List Char → Nat
  | [] => 0
  | c :: rest => c.utf8Size + byteLength rest

@[simp] theorem byteLength_nil : byteLength [] = 0 := rfl

@[simp] theorem byteLength_cons (c : Char) (rest : List Char) :
    byteLength (c :: rest) = c.utf8Size + byteLength rest := rfl

@[simp] theorem byteLength_append (left right : List Char) :
    byteLength (left ++ right) = byteLength left + byteLength right := by
  induction left with
  | nil => simp
  | cons c rest ih => simp [ih, Nat.add_assoc]

/-- The length of a text is the size of the string that it is the characters of. -/
@[simp] theorem byteLength_toList (text : String) : byteLength text.toList = text.utf8ByteSize := by
  have size (chars : List Char) : byteLength chars = (String.ofList chars).utf8ByteSize := by
    induction chars with
    | nil => simp
    | cons c rest ih => simp [ih]
  rw [size, String.ofList_toList]

/-- Cut a text at a byte offset into what stands before and after it. There is no cut
inside a character or beyond the end of the text. -/
def cut? : Nat → List Char → Option (List Char × List Char)
  | 0, text => some ([], text)
  | _ + 1, [] => none
  | offset + 1, c :: rest =>
      if c.utf8Size ≤ offset + 1 then
        (cut? (offset + 1 - c.utf8Size) rest).map fun (before, after) => (c :: before, after)
      else none

/-- The characters before a byte offset. -/
def upTo? (text : List Char) (offset : Nat) : Option (List Char) :=
  (cut? offset text).map (·.1)

/-- A cut loses nothing, and its first part has the length of the offset. -/
theorem cut?_eq_some {offset : Nat} {text before after : List Char}
    (found : cut? offset text = some (before, after)) :
    text = before ++ after ∧ byteLength before = offset := by
  induction text generalizing offset before with
  | nil =>
      cases offset with
      | zero => simp_all [cut?]
      | succ offset => simp [cut?] at found
  | cons c rest ih =>
      cases offset with
      | zero => simp_all [cut?]
      | succ offset =>
          rw [cut?] at found
          split at found
          · next fits =>
              obtain ⟨⟨first, second⟩, inner, same⟩ := Option.map_eq_some_iff.mp found
              obtain ⟨rfl, rfl⟩ := Prod.mk.inj same
              obtain ⟨rfl, size⟩ := ih inner
              exact ⟨rfl, by simp [size]; omega⟩
          · simp at found

/-- Every split of a text is found at the length of its first part. -/
theorem cut?_byteLength_append (before after : List Char) :
    cut? (byteLength before) (before ++ after) = some (before, after) := by
  induction before with
  | nil => cases after <;> rfl
  | cons c rest ih =>
      have positive : 0 < c.utf8Size := c.utf8Size_pos
      obtain ⟨size, sized⟩ : ∃ size, byteLength (c :: rest) = size + 1 :=
        ⟨c.utf8Size + byteLength rest - 1, by simp; omega⟩
      have remaining : size + 1 - c.utf8Size = byteLength rest := by
        rw [← sized]; simp
      rw [sized, List.cons_append, cut?, if_pos (by simp at sized; omega), remaining, ih]
      rfl

end KarelLint.Text
