import Mathlib.Data.List.Basic
import KarelLint.Source.Alphabet
import KarelLint.Source.Declaration
import KarelLint.Proofs.Source.Parentheses

/-! How a text of words, numbers and single marks is read. The searches for declarations and
for calls look at a text one character at a time; on such a text they go from word to word. -/

set_option autoImplicit false

namespace KarelLint

/-! ## Characters of identifiers -/

namespace Text

/-- The characters of identifiers are ASCII, so what holds of those among the first 128
characters holds of all. -/
theorem forall_isIdentifierPart {holds : Char → Bool}
    (ascii : ∀ point < 128, isIdentifierPart (Char.ofNat point) = true →
      holds (Char.ofNat point) = true)
    {c : Char} (part : isIdentifierPart c = true) : holds c = true := by
  have small : c.toNat < 128 := by
    have bounds : (decide (c.val ≥ 'A'.val ∧ c.val ≤ 'Z'.val) ||
        (decide (c.val ≥ 'a'.val) && decide (c.val ≤ 'z'.val)) ||
        (decide (c.val ≥ '0'.val) && decide (c.val ≤ '9'.val)) || c == '_') = true := part
    simp only [Bool.or_eq_true, Bool.and_eq_true, decide_eq_true_eq, beq_iff_eq,
      UInt32.le_iff_toNat_le] at bounds
    rcases bounds with ((⟨_, above⟩ | ⟨_, above⟩) | ⟨_, above⟩) | rfl
    · exact Nat.lt_of_le_of_lt above (by decide)
    · exact Nat.lt_of_le_of_lt above (by decide)
    · exact Nat.lt_of_le_of_lt above (by decide)
    · decide
  have same := ascii c.toNat small
  rw [Char.ofNat_toNat] at same
  exact same part

theorem isWord_of_isIdentifierPart {c : Char} (part : isIdentifierPart c = true) :
    isWord c = true :=
  forall_isIdentifierPart (by decide) part

theorem isBlank_of_isIdentifierPart {c : Char} (part : isIdentifierPart c = true) :
    isBlank c = false := by
  have visible : (!isBlank c) = true :=
    @forall_isIdentifierPart (fun c => !isBlank c) (by decide) c part
  simpa using visible

theorem isIdentifierPart_of_not_isWord {c : Char} (mark : isWord c = false) :
    isIdentifierPart c = false := by
  cases part : isIdentifierPart c with
  | false => rfl
  | true =>
      rw [isWord_of_isIdentifierPart part] at mark
      cases mark

theorem isIdentifierPart_of_isIdentifierStart {c : Char} (start : isIdentifierStart c = true) :
    isIdentifierPart c = true := by
  rw [isIdentifierStart, Bool.or_eq_true] at start
  rw [isIdentifierPart, Char.isAlphanum, Bool.or_eq_true, Bool.or_eq_true]
  rcases start with letter | line
  · exact .inl (.inl letter)
  · exact .inr line

theorem IsIdentifier.parts {name : List Char} (identifier : IsIdentifier name) :
    ∀ c ∈ name, isIdentifierPart c = true := by
  cases name with
  | nil => cases identifier
  | cons first rest =>
      intro c member
      rcases List.mem_cons.mp member with rfl | later
      · exact isIdentifierPart_of_isIdentifierStart identifier.1
      · exact identifier.2 c later

/-- An identifier is read up to the first character that cannot belong to it. -/
theorem identifier?_append {name : List Char} (identifier : IsIdentifier name) {c : Char}
    (ends : isIdentifierPart c = false) (rest : List Char) :
    identifier? (name ++ c :: rest) = some (name, c :: rest) := by
  cases name with
  | nil => cases identifier
  | cons first tail =>
      obtain ⟨start, parts⟩ := identifier
      rw [List.cons_append, identifier?, if_pos start, List.takeWhile_append_of_pos parts,
        List.dropWhile_append_of_pos parts, List.takeWhile_cons_of_neg (by simp [ends]),
        List.dropWhile_cons_of_neg (by simp [ends]), List.append_nil]

theorem isIdentifierStart_of_not_isWord {c : Char} (mark : isWord c = false) :
    isIdentifierStart c = false := by
  cases start : isIdentifierStart c with
  | false => rfl
  | true =>
      have part := isIdentifierPart_of_not_isWord mark
      rw [isIdentifierPart_of_isIdentifierStart start] at part
      cases part

theorem identifier?_of_not_start {c : Char} (other : isIdentifierStart c = false)
    (rest : List Char) : identifier? (c :: rest) = none := by
  rw [identifier?, other, if_neg Bool.false_ne_true]

theorem wordBoundary_inside {before after : Char} (left : isWord before = true)
    (right : isWord after = true) : wordBoundary (some before) (some after) = false := by
  rw [wordBoundary, Option.any_some, Option.any_some, left, right]
  rfl

theorem wordBoundary_start {before : Option Char} (clear : before.any isWord = false)
    {after : Char} (word : isWord after = true) : wordBoundary before (some after) = true := by
  rw [wordBoundary, clear, Option.any_some, word]
  rfl

end Text

namespace Source

open Text

theorem plain_of_parts {text : List Char} (parts : ∀ c ∈ text, isIdentifierPart c = true) :
    ∀ c ∈ text, IsPlain c := by
  have other {c mark : Char} (part : isIdentifierPart c = true)
      (none : isIdentifierPart mark = false) : c ≠ mark := by
    rintro rfl
    rw [part] at none
    cases none
  intro c member
  have part := parts c member
  exact ⟨other part (by decide), other part (by decide), other part (by decide)⟩

/-! ## Characters at which nothing starts -/

theorem callHead?_inside {before first : Char} (left : isWord before = true)
    (right : isWord first = true) (rest : List Char) :
    callHead? (some before) (first :: rest) = none := by
  rw [callHead?, List.head?_cons, wordBoundary_inside left right]
  rfl

theorem callHead?_of_not_start {c : Char} (other : isIdentifierStart c = false)
    (before : Option Char) (rest : List Char) : callHead? before (c :: rest) = none := by
  cases found : callHead? before (c :: rest) with
  | none => rfl
  | some head =>
      unfold callHead? at found
      obtain ⟨_, _, found⟩ := Option.bind_eq_some_iff.mp found
      obtain ⟨_, identified, _⟩ := Option.bind_eq_some_iff.mp found
      rw [identifier?_of_not_start other] at identified
      cases identified

theorem declarator?_eq_some {text word after : List Char}
    (found : declarator? text = some (word, after)) :
    String.ofList word ∈ declarators ∧ text = word ++ after := by
  obtain ⟨name, member, matched⟩ := List.exists_of_findSome?_eq_some found
  obtain ⟨rest, starts, same⟩ := Option.map_eq_some_iff.mp matched
  obtain ⟨rfl, rfl⟩ := Prod.mk.inj same
  refine ⟨?_, (List.isPrefixOf?_eq_some_iff_append_eq.mp starts).symm⟩
  rw [String.ofList_toList]
  exact member

theorem isIdentifier_of_mem_declarators {word : List Char}
    (member : String.ofList word ∈ declarators) : IsIdentifier word := by
  have all : ∀ name ∈ declarators, IsIdentifier name.toList := by decide
  have identifier := all _ member
  rw [String.toList_ofList] at identifier
  exact identifier

/-- A heading starts a word and consists of a declarator, white space and a name. -/
theorem heading?_eq_some {before : Option Char} {text : List Char} {heading : Heading}
    (found : heading? before text = some heading) :
    wordBoundary before text.head? = true ∧
      ∃ word after, declarator? text = some (word, after) ∧ (gap? after).isSome = true := by
  unfold heading? at found
  obtain ⟨_, boundary, found⟩ := Option.bind_eq_some_iff.mp found
  obtain ⟨⟨word, after⟩, declarator, found⟩ := Option.bind_eq_some_iff.mp found
  obtain ⟨_, gap, _⟩ := Option.bind_eq_some_iff.mp found
  refine ⟨?_, word, after, declarator, Option.isSome_of_eq_some gap⟩
  cases starts : wordBoundary before text.head? with
  | true => rfl
  | false =>
      rw [starts] at boundary
      cases boundary

theorem heading?_inside {before first : Char} (left : isWord before = true)
    (right : isWord first = true) (rest : List Char) :
    heading? (some before) (first :: rest) = none := by
  cases found : heading? (some before) (first :: rest) with
  | none => rfl
  | some heading =>
      have boundary := (heading?_eq_some found).1
      rw [List.head?_cons, wordBoundary_inside left right] at boundary
      cases boundary

theorem heading?_of_not_start {c : Char} (other : isIdentifierStart c = false)
    (before : Option Char) (rest : List Char) : heading? before (c :: rest) = none := by
  cases found : heading? before (c :: rest) with
  | none => rfl
  | some heading =>
      obtain ⟨_, word, after, declarator, _⟩ := heading?_eq_some found
      obtain ⟨member, split⟩ := declarator?_eq_some declarator
      have identifier := isIdentifier_of_mem_declarators member
      cases word with
      | nil => cases identifier
      | cons first tail =>
          rw [List.cons_append, List.cons.injEq] at split
          rw [split.1, identifier.1] at other
          cases other

theorem gap?_of_not_blank {c : Char} (visible : isBlank c = false) (rest : List Char) :
    gap? (c :: rest) = none := by
  rw [gap?, List.takeWhile_cons_of_neg (by simp [visible])]

/-- A word other than a declarator before white space is not the start of a heading, not even
if a declarator is its first part. -/
theorem heading?_of_word {name : List Char} (identifier : IsIdentifier name) {c : Char}
    (ends : isIdentifierPart c = false)
    (ordinary : isBlank c = true → String.ofList name ∉ declarators)
    (before : Option Char) (rest : List Char) : heading? before (name ++ c :: rest) = none := by
  cases found : heading? before (name ++ c :: rest) with
  | none => rfl
  | some heading =>
      obtain ⟨_, word, after, declarator, gap⟩ := heading?_eq_some found
      obtain ⟨member, split⟩ := declarator?_eq_some declarator
      have parts := (isIdentifier_of_mem_declarators member).parts
      rcases List.append_eq_append_iff.mp split with ⟨extra, rfl, tail⟩ | ⟨extra, rfl, rfl⟩
      · cases extra with
        | nil =>
            rw [List.nil_append] at tail
            rw [List.append_nil] at member
            cases blank : isBlank c with
            | true => exact absurd member (ordinary blank)
            | false =>
                rw [← tail, gap?_of_not_blank blank] at gap
                cases gap
        | cons d extra =>
            obtain ⟨rfl, _⟩ := List.cons.inj tail
            have part := parts c (by simp)
            rw [ends] at part
            cases part
      · cases extra with
        | nil =>
            rw [List.append_nil] at ordinary
            cases blank : isBlank c with
            | true => exact absurd member (ordinary blank)
            | false =>
                rw [List.nil_append, gap?_of_not_blank blank] at gap
                cases gap
        | cons d extra =>
            have part : isIdentifierPart d = true := identifier.parts d (by simp)
            rw [List.cons_append, gap?_of_not_blank (isBlank_of_isIdentifierPart part)] at gap
            cases gap

/-! ## From word to word -/

theorem callsFrom_of_none {before : Option Char} {c : Char} {rest : List Char}
    (nothing : callHead? before (c :: rest) = none) (offset : Nat) :
    callsFrom before offset (c :: rest) = callsFrom (some c) (offset + c.utf8Size) rest := by
  rw [callsFrom, nothing]

theorem declarationsFrom_of_none {before : Option Char} {c : Char} {rest : List Char}
    (nothing : heading? before (c :: rest) = none) (offset : Nat) :
    declarationsFrom 0 before offset (c :: rest) =
      declarationsFrom 0 (some c) (offset + c.utf8Size) rest := by
  rw [declarationsFrom, nothing]

theorem callsFrom_inside {before : Char} {tail : List Char} (word : isWord before = true)
    (words : ∀ c ∈ tail, isWord c = true) {c : Char} (mark : isWord c = false) (offset : Nat)
    (rest : List Char) :
    callsFrom (some before) offset (tail ++ c :: rest) =
      callsFrom (some c) (offset + byteLength tail + c.utf8Size) rest := by
  induction tail generalizing before offset with
  | nil =>
      exact callsFrom_of_none
        (callHead?_of_not_start (isIdentifierStart_of_not_isWord mark) _ rest) offset
  | cons first tail ih =>
      have starts : isWord first = true := words first List.mem_cons_self
      rw [List.cons_append, callsFrom_of_none (callHead?_inside word starts _),
        ih starts fun d member => words d (List.mem_cons_of_mem _ member)]
      simp [Nat.add_assoc]

theorem declarationsFrom_inside {before : Char} {tail : List Char} (word : isWord before = true)
    (words : ∀ c ∈ tail, isWord c = true) {c : Char} (mark : isWord c = false) (offset : Nat)
    (rest : List Char) :
    declarationsFrom 0 (some before) offset (tail ++ c :: rest) =
      declarationsFrom 0 (some c) (offset + byteLength tail + c.utf8Size) rest := by
  induction tail generalizing before offset with
  | nil =>
      exact declarationsFrom_of_none
        (heading?_of_not_start (isIdentifierStart_of_not_isWord mark) _ rest) offset
  | cons first tail ih =>
      have starts : isWord first = true := words first List.mem_cons_self
      rw [List.cons_append, declarationsFrom_of_none (heading?_inside word starts _),
        ih starts fun d member => words d (List.mem_cons_of_mem _ member)]
      simp [Nat.add_assoc]

/-- A call that is found from the start of a word on is that of the word, or it is found after
the word. -/
theorem mem_callsFrom_word {name : List Char} (identifier : IsIdentifier name) {c : Char}
    (mark : isWord c = false) {before : Option Char} {offset : Nat} {rest : List Char}
    {call : Call} (member : call ∈ callsFrom before offset (name ++ c :: rest)) :
    (c = '(' ∧ call.name = String.ofList name ∧ call.offset = offset ∧
      enclosed? 0 rest = some call.arguments.toList) ∨
    call ∈ callsFrom (some c) (offset + byteLength name + c.utf8Size) rest := by
  have read := identifier?_append identifier (isIdentifierPart_of_not_isWord mark) rest
  have words : ∀ d ∈ name, isWord d = true := fun d part =>
    isWord_of_isIdentifierPart (identifier.parts d part)
  cases name with
  | nil => cases identifier
  | cons first tail =>
      have later : callsFrom (some first) (offset + first.utf8Size) (tail ++ c :: rest) =
          callsFrom (some c) (offset + byteLength (first :: tail) + c.utf8Size) rest := by
        rw [callsFrom_inside (words first List.mem_cons_self)
          (fun d part => words d (List.mem_cons_of_mem _ part)) mark]
        simp [Nat.add_assoc]
      rw [List.cons_append, callsFrom, later] at member
      split at member
      · exact .inr member
      · next found =>
          rcases List.mem_cons.mp member with rfl | old
          · obtain ⟨_, inner, identified, closes⟩ := callHead?_eq_some_iff.mp found
            rw [List.cons_append] at read
            obtain ⟨rfl, same⟩ := Prod.mk.inj (Option.some.inj (read.symm.trans identified))
            obtain ⟨rfl, rfl⟩ := List.cons.inj same
            exact .inl ⟨rfl, rfl, rfl, by rw [closes, String.toList_ofList]⟩
          · exact .inr old

theorem declarationsFrom_word {name : List Char} (identifier : IsIdentifier name) {c : Char}
    (mark : isWord c = false) (ordinary : isBlank c = true → String.ofList name ∉ declarators)
    (before : Option Char) (offset : Nat) (rest : List Char) :
    declarationsFrom 0 before offset (name ++ c :: rest) =
      declarationsFrom 0 (some c) (offset + byteLength name + c.utf8Size) rest := by
  have nothing := heading?_of_word identifier (isIdentifierPart_of_not_isWord mark) ordinary
    before rest
  have words : ∀ d ∈ name, isWord d = true := fun d part =>
    isWord_of_isIdentifierPart (identifier.parts d part)
  cases name with
  | nil => cases identifier
  | cons first tail =>
      rw [List.cons_append] at nothing ⊢
      rw [declarationsFrom_of_none nothing, declarationsFrom_inside (words first List.mem_cons_self)
        (fun d part => words d (List.mem_cons_of_mem _ part)) mark]
      simp [Nat.add_assoc]

/-! ## Headings -/

/-- A heading as it is mostly written: one space after the declarator, and parentheses
directly after the name. -/
def headingText (word name : List Char) (parameter : Option (List Char)) : List Char :=
  word ++ ' ' :: (name ++ '(' :: (parameter.getD [] ++ [')']))

theorem utf8Size_space : ' '.utf8Size = 1 := by decide

theorem declarator?_append {word : List Char} (member : String.ofList word ∈ declarators)
    (rest : List Char) : declarator? (word ++ rest) = some (word, rest) := by
  have cases : word = "define".toList ∨ word = "void".toList := by
    rcases List.mem_cons.mp member with same | member
    · exact .inl (by rw [← same, String.toList_ofList])
    · exact .inr (by rw [← List.mem_singleton.mp member, String.toList_ofList])
  rcases cases with rfl | rfl
  · rfl
  · rfl

theorem gap?_space {c : Char} (visible : isBlank c = false) (rest : List Char) :
    gap? (' ' :: c :: rest) = some ([' '], c :: rest) := by
  have space : isBlank ' ' = true := by decide
  rw [gap?, List.takeWhile_cons_of_pos space, List.takeWhile_cons_of_neg (by simp [visible]),
    List.dropWhile_cons_of_pos space, List.dropWhile_cons_of_neg (by simp [visible])]

theorem optionalIdentifier_append {parameter : Option (List Char)}
    (identifier : ∀ name ∈ parameter, IsIdentifier name) (rest : List Char) :
    optionalIdentifier (parameter.getD [] ++ ')' :: rest) = (parameter, ')' :: rest) := by
  cases parameter with
  | none => rfl
  | some name =>
      rw [optionalIdentifier, Option.getD_some,
        identifier?_append (identifier name rfl) (by decide) rest]

theorem parameterList?_parenthesized {parameter : Option (List Char)}
    (identifier : ∀ name ∈ parameter, IsIdentifier name) (rest : List Char) :
    parameterList? ('(' :: (parameter.getD [] ++ ')' :: rest)) =
      some ⟨'(' :: (parameter.getD [] ++ [')']), parameter⟩ := by
  have opening : isBlank '(' = false := by decide
  have closing : isBlank ')' = false := by decide
  -- Neither the parameter nor the closing parenthesis starts with white space.
  obtain ⟨first, tail, split, visible⟩ : ∃ first tail,
      parameter.getD [] ++ ')' :: rest = first :: tail ∧ isBlank first = false := by
    cases parameter with
    | none => exact ⟨')', rest, rfl, closing⟩
    | some name =>
        have parts := (identifier name rfl).parts
        cases name with
        | nil => exact ⟨')', rest, rfl, closing⟩
        | cons first tail =>
            exact ⟨first, tail ++ ')' :: rest, rfl,
              isBlank_of_isIdentifierPart (parts first List.mem_cons_self)⟩
  have taken : (parameter.getD [] ++ ')' :: rest).takeWhile isBlank = [] := by
    rw [split, List.takeWhile_cons_of_neg (by simp [visible])]
  have dropped : (parameter.getD [] ++ ')' :: rest).dropWhile isBlank =
      parameter.getD [] ++ ')' :: rest := by
    rw [split, List.dropWhile_cons_of_neg (by simp [visible])]
  simp [parameterList?, opening, closing, taken, dropped, optionalIdentifier_append identifier]

theorem heading?_headingText {before : Option Char} (clear : before.any isWord = false)
    {word name : List Char} {parameter : Option (List Char)}
    (declarator : String.ofList word ∈ declarators) (identifier : IsIdentifier name)
    (parameters : ∀ inner ∈ parameter, IsIdentifier inner) (rest : List Char) :
    heading? before (headingText word name parameter ++ rest) =
      some ⟨word ++ [' '], name, some ⟨'(' :: (parameter.getD [] ++ [')']), parameter⟩⟩ := by
  have text : headingText word name parameter ++ rest =
      word ++ (' ' :: (name ++ '(' :: (parameter.getD [] ++ ')' :: rest))) := by
    simp [headingText]
  have boundary : wordBoundary before (headingText word name parameter ++ rest).head? = true := by
    have parts := (isIdentifier_of_mem_declarators declarator).parts
    rw [text]
    cases word with
    | nil => cases isIdentifier_of_mem_declarators declarator
    | cons first tail =>
        exact wordBoundary_start clear (isWord_of_isIdentifierPart (parts first List.mem_cons_self))
  have gap : gap? (' ' :: (name ++ '(' :: (parameter.getD [] ++ ')' :: rest))) =
      some ([' '], name ++ '(' :: (parameter.getD [] ++ ')' :: rest)) := by
    have parts := identifier.parts
    cases name with
    | nil => cases identifier
    | cons first tail =>
        exact gap?_space (isBlank_of_isIdentifierPart (parts first List.mem_cons_self)) _
  have read := identifier?_append identifier (c := '(') (by decide)
    (parameter.getD [] ++ ')' :: rest)
  rw [heading?, guard, if_pos boundary, text, declarator?_append declarator]
  simp [gap, read, parameterList?_parenthesized parameters]

theorem declarationsFrom_skip (skipped : List Char) (c : Char) (before : Option Char)
    (offset : Nat) (rest : List Char) :
    declarationsFrom (skipped.length + 1) before offset (skipped ++ c :: rest) =
      declarationsFrom 0 (some c) (offset + byteLength skipped + c.utf8Size) rest := by
  induction skipped generalizing before offset with
  | nil => rfl
  | cons first skipped ih =>
      rw [List.cons_append, List.length_cons, declarationsFrom, ih]
      simp [Nat.add_assoc]

theorem declarationsFrom_headingText {before : Option Char} (clear : before.any isWord = false)
    {word name : List Char} {parameter : Option (List Char)}
    (declarator : String.ofList word ∈ declarators) (identifier : IsIdentifier name)
    (parameters : ∀ inner ∈ parameter, IsIdentifier inner) (offset : Nat) (rest : List Char) :
    declarationsFrom 0 before offset (headingText word name parameter ++ rest) =
      ⟨String.ofList name, offset + byteLength word + 1, parameter.map String.ofList, true⟩ ::
        declarationsFrom 0 (some ')') (offset + byteLength (headingText word name parameter))
          rest := by
  have found := heading?_headingText clear declarator identifier parameters rest
  cases word with
  | nil => cases isIdentifier_of_mem_declarators declarator
  | cons first tail =>
      have text : headingText (first :: tail) name parameter ++ rest =
          first :: ((tail ++ ' ' :: (name ++ '(' :: parameter.getD [])) ++ ')' :: rest) := by
        simp [headingText]
      have skips : (Heading.written ⟨first :: tail ++ [' '], name,
          some ⟨'(' :: (parameter.getD [] ++ [')']), parameter⟩⟩).length - 1 =
          (tail ++ ' ' :: (name ++ '(' :: parameter.getD [])).length + 1 := by
        simp [Heading.written]
        omega
      have size : byteLength (headingText (first :: tail) name parameter) = first.utf8Size +
          byteLength (tail ++ ' ' :: (name ++ '(' :: parameter.getD [])) + ')'.utf8Size := by
        simp [headingText, Nat.add_assoc]
      rw [text] at found ⊢
      rw [declarationsFrom, found]
      dsimp only
      rw [skips, declarationsFrom_skip, size]
      simp [Heading.declaration, utf8Size_space, Nat.add_assoc]

end Source

end KarelLint
