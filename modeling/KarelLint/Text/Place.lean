import KarelLint.Text.Offset

/-! Places in a text as people and editors count them: lines, and within a line either
characters or UTF-16 code units. Lines end at line feeds, and all counts start at zero. -/

set_option autoImplicit false

namespace KarelLint.Text

/-- A line of a text and a distance from its start. -/
structure Place where
  line : Nat
  column : Nat
  deriving DecidableEq, Repr

/-- The number of line feeds in a text. -/
def lineFeeds (text : List Char) : Nat :=
  text.count '\n'

/-- What follows the last line feed of a text. -/
def lastLine (text : List Char) : List Char :=
  (text.reverse.takeWhile (· ≠ '\n')).reverse

/-- The number of UTF-16 code units of a character: two above U+FFFF. -/
def unitSize (c : Char) : Nat :=
  if c.toNat ≤ 0xFFFF then 1 else 2

/-- The number of UTF-16 code units of a text. -/
def unitLength : List Char → Nat
  | [] => 0
  | c :: rest => unitSize c + unitLength rest

/-- The line of a byte offset and the number of characters before it on that line. -/
def characterPlace? (text : List Char) (offset : Nat) : Option Place :=
  (upTo? text offset).map fun before => ⟨lineFeeds before, (lastLine before).length⟩

/-- The line of a byte offset and the number of UTF-16 code units before it on that
line. -/
def unitPlace? (text : List Char) (offset : Nat) : Option Place :=
  (upTo? text offset).map fun before => ⟨lineFeeds before, unitLength (lastLine before)⟩

/-- The lines of a text without their ends. A line ends with a line feed, or with a
carriage return and a line feed; a last line without an end counts if it is not empty. -/
def lines (text : List Char) : List (List Char) :=
  scan [] text
where
  /-- `line` holds the characters of the current line in reverse. -/
  scan (line : List Char) : List Char → List (List Char)
    | [] => if line.isEmpty then [] else [line.reverse]
    | c :: rest =>
        if c = '\n' then (withoutReturn line).reverse :: scan [] rest
        else scan (c :: line) rest
  /-- Drop the carriage return that stands last on a reversed line. -/
  withoutReturn : List Char → List Char
    | '\r' :: line => line
    | line => line

end KarelLint.Text
