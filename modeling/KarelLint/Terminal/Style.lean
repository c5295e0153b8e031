/-! Colours and alignment on a terminal. -/

set_option autoImplicit false

namespace KarelLint.Terminal

/-- Text between the control sequences with the given parameters. -/
def styled (on off : String) (text : String) : String :=
  "\x1b[" ++ on ++ "m" ++ text ++ "\x1b[" ++ off ++ "m"

/-- Bright red text. -/
def red : String → String :=
  styled "91" "39"

/-- Bright blue text. -/
def blue : String → String :=
  styled "94" "39"

/-- Bold text. -/
def bold : String → String :=
  styled "1" "0"

/-- A number of spaces. -/
def spaces (count : Nat) : String :=
  String.ofList (List.replicate count ' ')

/-- Text at the right end of a field of a given width. -/
def alignRight (width : Nat) (text : String) : String :=
  spaces (width - text.length) ++ text

end KarelLint.Terminal
