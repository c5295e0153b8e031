import KarelLint.Proofs.Source.Scan

/-! Texts cut into marks, numbers, words and headings. Such a text has the declarations of its
headings and no others, its calls are words before parentheses, and its characters are legal. -/

set_option autoImplicit false

namespace KarelLint.Source

open Text

/-- A character that stands for itself: it is legal and no part of a word. -/
structure IsMark (c : Char) : Prop where
  legal : isLegal c = true
  ends : isWord c = false

instance : DecidablePred IsMark := fun c =>
  decidable_of_iff (isLegal c = true ∧ isWord c = false)
    ⟨fun ⟨legal, ends⟩ => ⟨legal, ends⟩, fun ⟨legal, ends⟩ => ⟨legal, ends⟩⟩

/-- A text that starts at an offset, cut into its parts, with the declarations of its headings.
A word or number ends at a mark, and each word before a parenthesis is accepted with what the
parenthesis encloses. -/
inductive Scanned (accept : String → List Char → Prop) :
    Nat → List Char → List Declaration → Prop where
  | done {offset : Nat} : Scanned accept offset [] []
  | mark {offset : Nat} {c : Char} {rest : List Char} {found : List Declaration} : IsMark c →
      Scanned accept (offset + c.utf8Size) rest found → Scanned accept offset (c :: rest) found
  | number {offset : Nat} {digits : List Char} {c : Char} {rest : List Char}
      {found : List Declaration} : (∀ d ∈ digits, d.isDigit = true) → IsMark c →
      Scanned accept (offset + byteLength digits + c.utf8Size) rest found →
      Scanned accept offset (digits ++ c :: rest) found
  | word {offset : Nat} {name : List Char} {c : Char} {rest : List Char}
      {found : List Declaration} : IsIdentifier name → IsMark c →
      (isBlank c = true → String.ofList name ∉ declarators) →
      (c = '(' → ∀ arguments, enclosed? 0 rest = some arguments →
        accept (String.ofList name) arguments) →
      Scanned accept (offset + byteLength name + c.utf8Size) rest found →
      Scanned accept offset (name ++ c :: rest) found
  | heading {offset : Nat} {word name : List Char} {parameter : Option (List Char)}
      {rest : List Char} {found : List Declaration} : String.ofList word ∈ declarators →
      IsIdentifier name → (∀ inner ∈ parameter, IsIdentifier inner) →
      Scanned accept (offset + byteLength (headingText word name parameter)) rest found →
      Scanned accept offset (headingText word name parameter ++ rest)
        (⟨String.ofList name, offset + byteLength word + 1, parameter.map String.ofList, true⟩ ::
          found)

/-! ## Legality -/

theorem isLegal_of_isIdentifierPart {c : Char} (part : isIdentifierPart c = true) :
    isLegal c = true :=
  forall_isIdentifierPart (by decide) part

theorem isIdentifierPart_of_isDigit {c : Char} (digit : c.isDigit = true) :
    isIdentifierPart c = true := by
  rw [isIdentifierPart, Char.isAlphanum, digit, Bool.or_true, Bool.true_or]

theorem illegalFrom_eq_nil {text : List Char} (legal : ∀ c ∈ text, isLegal c = true)
    (offset : Nat) : illegalFrom offset text = [] := by
  induction text generalizing offset with
  | nil => rfl
  | cons c rest ih =>
      rw [illegalFrom, if_pos (legal c List.mem_cons_self)]
      exact ih (fun d member => legal d (List.mem_cons_of_mem _ member)) _

theorem isLegal_of_mem_headingText {word name : List Char} {parameter : Option (List Char)}
    (declarator : String.ofList word ∈ declarators) (identifier : IsIdentifier name)
    (parameters : ∀ inner ∈ parameter, IsIdentifier inner) :
    ∀ c ∈ headingText word name parameter, isLegal c = true := by
  intro c member
  simp only [headingText, List.mem_append, List.mem_cons, List.not_mem_nil, or_false] at member
  rcases member with inWord | rfl | inName | rfl | inParameter | rfl
  · exact isLegal_of_isIdentifierPart
      ((isIdentifier_of_mem_declarators declarator).parts c inWord)
  · decide
  · exact isLegal_of_isIdentifierPart (identifier.parts c inName)
  · decide
  · cases parameter with
    | none => cases inParameter
    | some inner => exact isLegal_of_isIdentifierPart ((parameters inner rfl).parts c inParameter)
  · decide

namespace Scanned

variable {accept : String → List Char → Prop} {offset : Nat} {text : List Char}
  {found : List Declaration}

theorem marks (marks : List Char) (all : (marks.all fun c => decide (IsMark c)) = true)
    (after : Scanned accept (offset + byteLength marks) text found) :
    Scanned accept offset (marks ++ text) found := by
  induction marks generalizing offset with
  | nil => exact after
  | cons c marks ih =>
      rw [List.all_cons, Bool.and_eq_true, decide_eq_true_eq] at all
      apply Scanned.mark all.1
      apply ih all.2
      simpa [Nat.add_assoc] using after

theorem legal (scanned : Scanned accept offset text found) : ∀ c ∈ text, isLegal c = true := by
  induction scanned with
  | done =>
      intro c member
      cases member
  | mark mark _ ih =>
      intro c member
      rcases List.mem_cons.mp member with rfl | later
      · exact mark.legal
      · exact ih c later
  | number digits mark _ ih =>
      intro c member
      simp only [List.mem_append, List.mem_cons] at member
      rcases member with digit | rfl | later
      · exact isLegal_of_isIdentifierPart (isIdentifierPart_of_isDigit (digits c digit))
      · exact mark.legal
      · exact ih c later
  | word identifier mark _ _ _ ih =>
      intro c member
      simp only [List.mem_append, List.mem_cons] at member
      rcases member with part | rfl | later
      · exact isLegal_of_isIdentifierPart (identifier.parts c part)
      · exact mark.legal
      · exact ih c later
  | heading declarator identifier parameters _ ih =>
      intro c member
      rcases List.mem_append.mp member with head | later
      · exact isLegal_of_mem_headingText declarator identifier parameters c head
      · exact ih c later

end Scanned

/-! ## Declarations and calls -/

theorem isIdentifierStart_of_isDigit {c : Char} (digit : c.isDigit = true) :
    isIdentifierStart c = false := by
  have apart : (!(c.isDigit && isIdentifierStart c)) = true :=
    @forall_isIdentifierPart (fun c => !(c.isDigit && isIdentifierStart c)) (by decide) c
      (isIdentifierPart_of_isDigit digit)
  simpa [digit] using apart

theorem isWord_of_isDigit {c : Char} (digit : c.isDigit = true) : isWord c = true :=
  isWord_of_isIdentifierPart (isIdentifierPart_of_isDigit digit)

theorem declarationsFrom_mark {c : Char} (mark : IsMark c) (before : Option Char) (offset : Nat)
    (rest : List Char) :
    declarationsFrom 0 before offset (c :: rest) =
      declarationsFrom 0 (some c) (offset + c.utf8Size) rest :=
  declarationsFrom_of_none
    (heading?_of_not_start (isIdentifierStart_of_not_isWord mark.ends) before rest) offset

theorem callsFrom_mark {c : Char} (mark : IsMark c) (before : Option Char) (offset : Nat)
    (rest : List Char) :
    callsFrom before offset (c :: rest) = callsFrom (some c) (offset + c.utf8Size) rest :=
  callsFrom_of_none
    (callHead?_of_not_start (isIdentifierStart_of_not_isWord mark.ends) before rest) offset

theorem declarationsFrom_number {digits : List Char} (numeric : ∀ d ∈ digits, d.isDigit = true)
    {c : Char} (mark : IsMark c) (before : Option Char) (offset : Nat) (rest : List Char) :
    declarationsFrom 0 before offset (digits ++ c :: rest) =
      declarationsFrom 0 (some c) (offset + byteLength digits + c.utf8Size) rest := by
  cases digits with
  | nil => exact declarationsFrom_mark mark before offset rest
  | cons first tail =>
      have digit := numeric first List.mem_cons_self
      rw [List.cons_append, declarationsFrom_of_none
          (heading?_of_not_start (isIdentifierStart_of_isDigit digit) before _),
        declarationsFrom_inside (isWord_of_isDigit digit)
          (fun d member => isWord_of_isDigit (numeric d (List.mem_cons_of_mem _ member))) mark.ends]
      simp [Nat.add_assoc]

theorem callsFrom_number {digits : List Char} (numeric : ∀ d ∈ digits, d.isDigit = true)
    {c : Char} (mark : IsMark c) (before : Option Char) (offset : Nat) (rest : List Char) :
    callsFrom before offset (digits ++ c :: rest) =
      callsFrom (some c) (offset + byteLength digits + c.utf8Size) rest := by
  cases digits with
  | nil => exact callsFrom_mark mark before offset rest
  | cons first tail =>
      have digit := numeric first List.mem_cons_self
      rw [List.cons_append, callsFrom_of_none
          (callHead?_of_not_start (isIdentifierStart_of_isDigit digit) before _),
        callsFrom_inside (isWord_of_isDigit digit)
          (fun d member => isWord_of_isDigit (numeric d (List.mem_cons_of_mem _ member))) mark.ends]
      simp [Nat.add_assoc]

/-- The only call in a heading is that of its name. -/
theorem mem_callsFrom_headingText {word name : List Char} {parameter : Option (List Char)}
    (declarator : String.ofList word ∈ declarators) (identifier : IsIdentifier name)
    (parameters : ∀ inner ∈ parameter, IsIdentifier inner) {before : Option Char} {offset : Nat}
    {rest : List Char} {call : Call}
    (member : call ∈ callsFrom before offset (headingText word name parameter ++ rest)) :
    call.offset = offset + byteLength word + 1 ∨
      call ∈ callsFrom (some ')') (offset + byteLength (headingText word name parameter)) rest := by
  have text : headingText word name parameter ++ rest =
      word ++ ' ' :: (name ++ '(' :: (parameter.getD [] ++ ')' :: rest)) := by
    simp [headingText]
  rw [text] at member
  rcases mem_callsFrom_word (isIdentifier_of_mem_declarators declarator) (by decide) member
    with ⟨space, _⟩ | member
  · exact absurd space (by decide)
  rcases mem_callsFrom_word identifier (by decide) member with ⟨_, _, same, _⟩ | member
  · exact .inl (by rw [same, utf8Size_space])
  have last : call ∈ callsFrom (some ')') (offset + byteLength word + ' '.utf8Size +
      byteLength name + '('.utf8Size + byteLength (parameter.getD []) + ')'.utf8Size) rest := by
    cases parameter with
    | none =>
        rw [Option.getD_none, List.nil_append, callsFrom_mark (by decide)] at member
        exact member
    | some inner =>
        rcases mem_callsFrom_word (parameters inner rfl) (by decide) member with
          ⟨closing, _⟩ | member
        · exact absurd closing (by decide)
        · exact member
  right
  simpa [headingText, Nat.add_assoc] using last

namespace Scanned

variable {accept : String → List Char → Prop} {offset : Nat} {text : List Char}
  {found : List Declaration}

/-- The declarations of a text are those of its headings. -/
theorem declarationsFrom_eq (scanned : Scanned accept offset text found) {before : Option Char}
    (clear : before.any isWord = false) : declarationsFrom 0 before offset text = found := by
  induction scanned generalizing before with
  | done => rfl
  | mark mark _ ih =>
      rw [declarationsFrom_mark mark]
      exact ih mark.ends
  | number numeric mark _ ih =>
      rw [declarationsFrom_number numeric mark]
      exact ih mark.ends
  | word identifier mark ordinary _ _ ih =>
      rw [declarationsFrom_word identifier mark.ends ordinary]
      exact ih mark.ends
  | heading declarator identifier parameters _ ih =>
      have closing : (some ')').any isWord = false := by decide
      rw [declarationsFrom_headingText clear declarator identifier parameters, ih closing]

/-- The calls of a text are accepted words and the names of headings. -/
theorem accepted (scanned : Scanned accept offset text found) {before : Option Char}
    {call : Call} (member : call ∈ callsFrom before offset text) :
    accept call.name call.arguments.toList ∨
      ∃ declaration ∈ found,
        declaration.parenthesized = true ∧ declaration.offset = call.offset := by
  induction scanned generalizing before with
  | done => cases member
  | mark mark _ ih =>
      rw [callsFrom_mark mark] at member
      exact ih member
  | number numeric mark _ ih =>
      rw [callsFrom_number numeric mark] at member
      exact ih member
  | word identifier mark _ acceptable _ ih =>
      rcases mem_callsFrom_word identifier mark.ends member with
        ⟨opening, named, _, enclosed⟩ | later
      · rw [named]
        exact .inl (acceptable opening _ enclosed)
      · exact ih later
  | heading declarator identifier parameters _ ih =>
      rcases mem_callsFrom_headingText declarator identifier parameters member with same | later
      · exact .inr ⟨_, List.mem_cons_self, rfl, same.symm⟩
      · rcases ih later with fine | ⟨declaration, old, parenthesized, same⟩
        · exact .inl fine
        · exact .inr ⟨declaration, List.mem_cons_of_mem _ old, parenthesized, same⟩

end Scanned

end KarelLint.Source
