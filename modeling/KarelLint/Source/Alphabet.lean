import KarelLint.Text.Blank

/-! The characters of which Karel programs consist. -/

set_option autoImplicit false

namespace KarelLint.Source

/-- The symbols that a program may use. -/
def symbols : List Char :=
  ";()_/*&!|\x7b\x7d".toList

/-- A character that may stand in a program: an ASCII letter or digit, white space, a
symbol, or the byte order mark that some editors write first. -/
def isLegal (c : Char) : Bool :=
  c.isAlphanum || Text.isBlank c || c == '\uFEFF' || symbols.contains c

/-- The illegal characters of a text with their byte offsets, the text itself starting at
`offset`. -/
def illegalFrom (offset : Nat) : List Char → List (Nat × Char)
  | [] => []
  | c :: rest =>
      if isLegal c then illegalFrom (offset + c.utf8Size) rest
      else (offset, c) :: illegalFrom (offset + c.utf8Size) rest

/-- The illegal characters of a text with their byte offsets. -/
def illegal (text : String) : List (Nat × Char) :=
  illegalFrom 0 text.toList

end KarelLint.Source
