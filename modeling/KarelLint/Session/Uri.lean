import KarelLint.Json.Value

/-! References to resources: the URI references of RFC 3986, with addresses of version 6 as
the only ones in brackets. They are compared as they are written. -/

set_option autoImplicit false

namespace KarelLint.Session

namespace Uri

/-- A hexadecimal digit. -/
def isHex (c : Char) : Bool :=
  c.isDigit || ('a' ≤ c && c ≤ 'f') || ('A' ≤ c && c ≤ 'F')

/-- A character without a role of its own. -/
def isUnreserved (c : Char) : Bool :=
  c.isAlphanum || "-._~".toList.contains c

/-- A character that may divide the parts of a component. -/
def isSubDelimiter (c : Char) : Bool :=
  "!$&'()*+,;=".toList.contains c

/-- A character of a host name. -/
def isName (c : Char) : Bool :=
  isUnreserved c || isSubDelimiter c

/-- A character of the part before the host. -/
def isUser (c : Char) : Bool :=
  isName c || c == ':'

/-- A character of a path. -/
def isPath (c : Char) : Bool :=
  isName c || c == ':' || c == '@' || c == '/'

/-- A character of a query or a fragment. -/
def isQuery (c : Char) : Bool :=
  isPath c || c == '?'

/-- Whether a text has only characters of a class and bytes written as a percent sign and
two hexadecimal digits. -/
def consistsOf (allowed : Char → Bool) : List Char → Bool
  | [] => true
  | '%' :: high :: low :: rest => isHex high && isHex low && consistsOf allowed rest
  | c :: rest => c != '%' && allowed c && consistsOf allowed rest

/-- Cut a text at the first occurrence of a character, which belongs to neither part. -/
def splitAt? (mark : Char) : List Char → Option (List Char × List Char)
  | [] => none
  | c :: rest =>
      if c == mark then some ([], rest)
      else (splitAt? mark rest).map fun (before, after) => (c :: before, after)

/-- A letter, followed by letters, digits, plus signs, hyphens and points. -/
def isScheme : List Char → Bool
  | [] => false
  | c :: rest => c.isAlpha && rest.all fun d => d.isAlphanum || "+-.".toList.contains d

/-- The pieces of a text between the occurrences of a character. -/
def pieces (mark : Char) : List Char → List (List Char)
  | [] => [[]]
  | c :: rest =>
      if c == mark then [] :: pieces mark rest
      else match pieces mark rest with
        | [] => [[c]]
        | piece :: later => (c :: piece) :: later

/-- A number from 0 to 255 without leading zeros. -/
def isOctet (digits : List Char) : Bool :=
  Text.isDecimal digits && (digits.length == 1 || digits.head? != some '0') &&
    Text.decimalValue digits ≤ 255

/-- Four octets with points between them. -/
def isAddress4 (text : List Char) : Bool :=
  let octets := pieces '.' text
  octets.length == 4 && octets.all isOctet

/-- One to four hexadecimal digits. -/
def isGroup (text : List Char) : Bool :=
  !text.isEmpty && text.length ≤ 4 && text.all isHex

/-- The number of 16-bit groups that a list of groups stands for. The last one may be an
address of four octets, which counts twice, where `mixed` allows it. -/
def groupCount? (mixed : Bool) : List (List Char) → Option Nat
  | [] => some 0
  | [last] =>
      if isGroup last then some 1
      else if mixed && isAddress4 last then some 2
      else none
  | group :: later => if isGroup group then (groupCount? mixed later).map (· + 1) else none

/-- The groups between colons. No text stands for no groups. -/
def groups (text : List Char) : List (List Char) :=
  if text.isEmpty then [] else pieces ':' text

/-- Cut a text at its first pair of colons. -/
def splitGap? : List Char → Option (List Char × List Char)
  | ':' :: ':' :: rest => some ([], rest)
  | c :: rest => (splitGap? rest).map fun (before, after) => (c :: before, after)
  | [] => none

/-- Eight 16-bit groups, of which one run may be left out as a pair of colons. -/
def isAddress6 (text : List Char) : Bool :=
  match splitGap? text with
  | none => groupCount? true (groups text) == some 8
  | some (before, after) =>
      match groupCount? false (groups before), groupCount? true (groups after) with
      | some left, some right => left + right ≤ 7
      | _, _ => false

/-- The number of a service after a colon, or nothing. -/
def isServiceSuffix : List Char → Bool
  | [] => true
  | ':' :: digits => digits.all Char.isDigit
  | _ => false

/-- A host, possibly with the number of a service. An address in brackets may hold colons. -/
def isHost : List Char → Bool
  | '[' :: rest =>
      match splitAt? ']' rest with
      | some (address, service) => isAddress6 address && isServiceSuffix service
      | none => false
  | text =>
      let name := text.takeWhile (· != ':')
      consistsOf isName name && isServiceSuffix (text.drop name.length)

/-- What may stand between two slashes and the path. -/
def isAuthority (text : List Char) : Bool :=
  match splitAt? '@' text with
  | some (user, host) => consistsOf isUser user && isHost host
  | none => isHost text

/-- An authority after two slashes and a path, or a path alone. -/
def isHierarchy : List Char → Bool
  | '/' :: '/' :: rest =>
      let authority := rest.takeWhile (· != '/')
      isAuthority authority && consistsOf isPath (rest.drop authority.length)
  | path => consistsOf isPath path

/-- A scheme and a hierarchy, or a hierarchy alone. A colon in the first segment ends a
scheme. -/
def isBody (text : List Char) : Bool :=
  match splitAt? ':' (text.takeWhile (· != '/')) with
  | some (scheme, _) => isScheme scheme && isHierarchy (text.drop (scheme.length + 1))
  | none => isHierarchy text

/-- A text whose part after the first `mark`, if there is one, is a query or a fragment, and
whose part before it passes a test. -/
def isBefore (mark : Char) (valid : List Char → Bool) (text : List Char) : Bool :=
  match splitAt? mark text with
  | some (before, after) => valid before && consistsOf isQuery after
  | none => valid text

/-- A URI or a relative reference. -/
def isReference (text : List Char) : Bool :=
  isBefore '#' (isBefore '?' isBody) text

end Uri

/-- A URI reference. -/
structure Uri where
  text : String
  wellFormed : Uri.isReference text.toList = true
  deriving DecidableEq

namespace Uri

/-- Read a URI reference. -/
def parse? (text : String) : Option Uri :=
  if wellFormed : isReference text.toList = true then some ⟨text, wellFormed⟩ else none

/-- Read a URI reference from JSON. -/
def ofJson? (value : Json) : Option Uri :=
  value.str?.bind parse?

/-- References are ordered as their texts are. -/
instance : Ord Uri where
  compare left right := compare left.text right.text

theorem ext_text {left right : Uri} (same : left.text = right.text) : left = right := by
  cases left; cases right; cases same; rfl

instance : Std.TransOrd Uri where
  eq_swap {left right} :=
    (Std.OrientedCmp.eq_swap : compare left.text right.text = (compare right.text left.text).swap)
  isLE_trans {left middle right} (first : (compare left.text middle.text).isLE)
      (second : (compare middle.text right.text).isLE) :=
    (Std.TransCmp.isLE_trans first second : (compare left.text right.text).isLE)

instance : Std.LawfulEqOrd Uri where
  compare_self {uri} := (Std.ReflCmp.compare_self : compare uri.text uri.text = .eq)
  eq_of_compare {left right} (same : compare left.text right.text = .eq) :=
    ext_text (Std.LawfulEqCmp.eq_of_compare same)

end Uri

end KarelLint.Session
