import KarelLint.Diagnosis.Problem

/-! What to tell a beginner about a problem. -/

set_option autoImplicit false

namespace KarelLint.Diagnosis

/-- A character as ASCII text: printable characters as they are, except that quotes and the
backslash follow a backslash, and all others as escapes. -/
def visible (c : Char) : String :=
  if c == '\t' then "\\t"
  else if c == '\r' then "\\r"
  else if c == '\n' then "\\n"
  else if c == '\'' || c == '"' || c == '\\' then "\\" ++ c.toString
  else if 0x20 ≤ c.toNat && c.toNat ≤ 0x7E then c.toString
  else "\\u\x7b" ++ String.ofList (Nat.toDigits 16 c.toNat) ++ "\x7d"

/-- What is wrong, and what to do about it. -/
def Fault.explanation : Fault → String
  | illegalCharacter char =>
      "The character '" ++ visible char ++
        "' is not part of the Karel language. Programs are written\n" ++
        "with ASCII letters and digits, whitespace, and the symbols\n\n" ++
        "    ;  (  )  _  /  *  &  !  |  \x7b  \x7d"
  | alreadyDefined name =>
      s!"A procedure named '{name}' was declared earlier in this program. The first\n" ++
        "declaration is the one that counts; give this one a different name."
  | reservedWord name =>
      s!"'{name}' is one of Karel's built-in instructions or keywords, so it can't be\n" ++
        "used as the name of a new procedure."
  | unexpectedParameter name =>
      s!"The procedure '{name}' was declared without a parameter, so it must be\n" ++
        s!"called with empty parentheses:\n\n    {name}();"
  | missingParameter name =>
      s!"The procedure '{name}' was declared with a parameter, so a value must be\n" ++
        s!"supplied when calling it, for example:\n\n    {name}(5);"
  | instructionParameter name =>
      s!"Built-in instructions like '{name}' never take a parameter. Call it with empty\n" ++
        s!"parentheses:\n\n    {name}();"
  | tooManyParameters name =>
      s!"Karel procedures accept at most one parameter, but '{name}' is being called\n" ++
        "with several. Pass a single value."
  | undeclared name =>
      s!"There is no procedure named '{name}'. Declare it before using it:\n\n" ++
        s!"    void {name}() \x7b\n        ...\n    \x7d"

end KarelLint.Diagnosis
