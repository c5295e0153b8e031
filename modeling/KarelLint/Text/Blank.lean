import KarelLint.Text.CodePoints

/-! Blank characters: the Unicode property `White_Space`. -/

set_option autoImplicit false

namespace KarelLint.Text

/-- The intervals of the property `White_Space`, in ascending order. -/
def blankIntervals : List Interval :=
  [⟨0x9, 0xD⟩, ⟨0x20, 0x20⟩, ⟨0x85, 0x85⟩, ⟨0xA0, 0xA0⟩, ⟨0x1680, 0x1680⟩,
   ⟨0x2000, 0x200A⟩, ⟨0x2028, 0x2029⟩, ⟨0x202F, 0x202F⟩, ⟨0x205F, 0x205F⟩,
   ⟨0x3000, 0x3000⟩]

/-- White space in the sense of Unicode. The byte order mark and the zero-width
spaces do not belong to it. -/
def isBlank (c : Char) : Bool :=
  covers blankIntervals c.toNat

/-- A text without any character other than white space. -/
def allBlank (text : List Char) : Bool :=
  text.all isBlank

end KarelLint.Text
