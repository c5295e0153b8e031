/-! Identifiers: an ASCII letter or a low line, followed by ASCII letters, digits and low
lines. -/

set_option autoImplicit false

namespace KarelLint.Text

/-- A character that may start an identifier. -/
def isIdentifierStart (c : Char) : Bool :=
  c.isAlpha || c == '_'

/-- A character that may follow the first one of an identifier. -/
def isIdentifierPart (c : Char) : Bool :=
  c.isAlphanum || c == '_'

/-- The longest identifier at the start of a text, and the text after it. -/
def identifier? : List Char → Option (List Char × List Char)
  | [] => none
  | c :: rest =>
      if isIdentifierStart c then
        some (c :: rest.takeWhile isIdentifierPart, rest.dropWhile isIdentifierPart)
      else none

/-- An identifier and nothing else. -/
def IsIdentifier : List Char → Prop
  | [] => False
  | c :: rest => isIdentifierStart c = true ∧ ∀ d ∈ rest, isIdentifierPart d = true

instance : DecidablePred IsIdentifier
  | [] => .isFalse id
  | c :: rest =>
      decidable_of_iff ((isIdentifierStart c && rest.all isIdentifierPart) = true)
        (by simp [IsIdentifier])

/-- What is read is an identifier, nothing of the text is lost, and no further character
could belong to the identifier. -/
theorem identifier?_eq_some {text name rest : List Char}
    (found : identifier? text = some (name, rest)) :
    IsIdentifier name ∧ text = name ++ rest ∧
      ∀ c ∈ rest.head?, isIdentifierPart c = false := by
  cases text with
  | nil => simp [identifier?] at found
  | cons c tail =>
      rw [identifier?] at found
      split at found
      · next start =>
          obtain ⟨rfl, rfl⟩ := Prod.mk.inj (Option.some.inj found)
          refine ⟨⟨start, ?_⟩, ?_, ?_⟩
          · exact List.all_eq_true.mp List.all_takeWhile
          · simp [List.takeWhile_append_dropWhile]
          · intro d first
            have stopped := List.head?_dropWhile_not isIdentifierPart tail
            simp only [Option.mem_def] at first
            simpa [first] using stopped
      · simp at found

end KarelLint.Text
