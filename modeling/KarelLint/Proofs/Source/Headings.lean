import KarelLint.Proofs.Source.Scan

/-! The grammar of calls and headings, and the search for declarations as a relation that goes from heading
to heading. The grammar says of each reader which texts it accepts, so that other proofs need not
open the readers. -/

set_option autoImplicit false

namespace KarelLint

namespace Text

/-- White space that is not missing. -/
structure IsGap (blanks : List Char) : Prop where
  present : blanks ≠ []
  blank : ∀ c ∈ blanks, isBlank c = true

section Runs

variable {holds : Char → Bool} {front rest : List Char}

/-- A run of characters ends where the rest of the text does not continue it. -/
theorem takeWhile_append_of_stop (all : ∀ c ∈ front, holds c = true)
    (stops : ∀ c ∈ rest.head?, holds c = false) : (front ++ rest).takeWhile holds = front := by
  rw [List.takeWhile_append_of_pos all]
  cases rest with
  | nil => simp
  | cons c rest => simp [stops c rfl]

theorem dropWhile_append_of_stop (all : ∀ c ∈ front, holds c = true)
    (stops : ∀ c ∈ rest.head?, holds c = false) : (front ++ rest).dropWhile holds = rest := by
  rw [List.dropWhile_append_of_pos all]
  cases rest with
  | nil => simp
  | cons c rest => simp [stops c rfl]

theorem stops_cons {c : Char} (other : holds c = false) (rest : List Char) :
    ∀ d ∈ (c :: rest).head?, holds d = false := by
  simpa using other

/-- Every text starts with a run, which may be empty. -/
theorem exists_run (holds : Char → Bool) (text : List Char) :
    ∃ front rest, text = front ++ rest ∧ (∀ c ∈ front, holds c = true) ∧
      ∀ c ∈ rest.head?, holds c = false := by
  refine ⟨text.takeWhile holds, text.dropWhile holds, List.takeWhile_append_dropWhile.symm,
    List.all_eq_true.mp List.all_takeWhile, ?_⟩
  intro c first
  have stopped := List.head?_dropWhile_not holds text
  simp only [Option.mem_def] at first
  simpa [first] using stopped

end Runs

theorem identifier?_eq_some_iff {text name rest : List Char} :
    identifier? text = some (name, rest) ↔
      IsIdentifier name ∧ text = name ++ rest ∧ ∀ c ∈ rest.head?, isIdentifierPart c = false := by
  constructor
  · exact identifier?_eq_some
  · rintro ⟨identifier, rfl, stops⟩
    cases name with
    | nil => cases identifier
    | cons first tail =>
        obtain ⟨start, parts⟩ := identifier
        rw [List.cons_append, identifier?, if_pos start, takeWhile_append_of_stop parts stops,
          dropWhile_append_of_stop parts stops]

theorem IsIdentifier.exists_cons {name : List Char} (identifier : IsIdentifier name) :
    ∃ first tail, name = first :: tail ∧ isIdentifierPart first = true := by
  cases name with
  | nil => cases identifier
  | cons first tail => exact ⟨first, tail, rfl, identifier.parts first List.mem_cons_self⟩

theorem IsIdentifier.visible {name : List Char} (identifier : IsIdentifier name) :
    ∀ c ∈ name, isBlank c = false :=
  fun c member => isBlank_of_isIdentifierPart (identifier.parts c member)

theorem IsIdentifier.head?_visible {name : List Char} (identifier : IsIdentifier name)
    (rest : List Char) : ∀ c ∈ (name ++ rest).head?, isBlank c = false := by
  obtain ⟨c, tail, rfl, part⟩ := identifier.exists_cons
  exact stops_cons (isBlank_of_isIdentifierPart part) _

/-- What follows an identifier is no part of it when it starts with white space or with a
closing parenthesis. -/
theorem head?_blanks_append {blanks rest : List Char} {c : Char}
    (blank : ∀ d ∈ blanks, isBlank d = true) (ends : isIdentifierPart c = false) :
    ∀ d ∈ (blanks ++ c :: rest).head?, isIdentifierPart d = false := by
  intro d first
  cases blanks with
  | nil =>
      obtain rfl : c = d := by simpa using first
      exact ends
  | cons e blanks =>
      obtain rfl : e = d := by simpa using first
      cases part : isIdentifierPart e with
      | false => rfl
      | true =>
          have visible := isBlank_of_isIdentifierPart part
          rw [blank e List.mem_cons_self] at visible
          cases visible

end Text

namespace Source

open Text

/-! ## Calls -/

/-- A call is read where a word starts that is an identifier, with balanced text in parentheses
directly after it. -/
theorem callHead?_iff {before : Option Char} {text name arguments : List Char} :
    callHead? before text = some (name, arguments) ↔
      wordBoundary before text.head? = true ∧ IsIdentifier name ∧ Balanced arguments ∧
        ∃ after, text = name ++ '(' :: (arguments ++ ')' :: after) := by
  rw [callHead?_eq_some_iff]
  simp only [identifier?_eq_some_iff, enclosed?_eq_some_iff, balanced_iff_level?]
  constructor
  · intro ⟨boundary, inner, ⟨identifier, split, _⟩, balanced, after, rest⟩
    exact ⟨boundary, identifier, balanced, after, by rw [split, rest]⟩
  · intro ⟨boundary, identifier, balanced, after, split⟩
    exact ⟨boundary, _, ⟨identifier, split, stops_cons (by decide) _⟩, balanced, after, rfl⟩

/-! ## Parameter lists -/

/-- How parameter lists are written: white space, and parentheses around white space and at most
one identifier. -/
inductive IsParameterList : List Char → Option (List Char) → Prop where
  | empty {before inside : List Char} : (∀ c ∈ before, isBlank c = true) →
      (∀ c ∈ inside, isBlank c = true) →
      IsParameterList (before ++ '(' :: (inside ++ [')'])) none
  | single {before inside name after : List Char} : (∀ c ∈ before, isBlank c = true) →
      (∀ c ∈ inside, isBlank c = true) → IsIdentifier name → (∀ c ∈ after, isBlank c = true) →
      IsParameterList (before ++ '(' :: (inside ++ (name ++ (after ++ [')'])))) (some name)

theorem optionalIdentifier_cases (text : List Char) :
    (∃ name rest, identifier? text = some (name, rest) ∧
      optionalIdentifier text = (some name, rest)) ∨
    (identifier? text = none ∧ optionalIdentifier text = (none, text)) := by
  unfold optionalIdentifier
  cases found : identifier? text with
  | none => exact .inr ⟨rfl, rfl⟩
  | some read => exact .inl ⟨read.1, read.2, rfl, rfl⟩

theorem isParameterList_of_parameterList? {text : List Char} {parameters : ParameterList}
    (found : parameterList? text = some parameters) :
    IsParameterList parameters.written parameters.parameter ∧
      ∃ rest, text = parameters.written ++ rest := by
  obtain ⟨before, opened, rfl, blankBefore, opens⟩ := exists_run isBlank text
  simp only [parameterList?, takeWhile_append_of_stop blankBefore opens,
    dropWhile_append_of_stop blankBefore opens] at found
  split at found
  · next inner =>
      obtain ⟨inside, tail, rfl, blankInside, visible⟩ := exists_run isBlank inner
      simp only [takeWhile_append_of_stop blankInside visible,
        dropWhile_append_of_stop blankInside visible] at found
      rcases optionalIdentifier_cases tail with ⟨name, after, named, read⟩ | ⟨unnamed, read⟩
      · obtain ⟨identifier, rfl, stops⟩ := identifier?_eq_some named
        obtain ⟨blanks, closed, rfl, blankAfter, closes⟩ := exists_run isBlank after
        simp only [read, takeWhile_append_of_stop blankAfter closes,
          dropWhile_append_of_stop blankAfter closes] at found
        split at found
        · next rest =>
            cases found
            refine ⟨?_, rest, by simp⟩
            simpa using IsParameterList.single blankBefore blankInside identifier blankAfter
        · cases found
      · have nothing : tail.takeWhile isBlank = [] ∧ tail.dropWhile isBlank = tail := by
          have blank : ∀ c ∈ ([] : List Char), isBlank c = true := by simp
          exact ⟨takeWhile_append_of_stop blank visible, dropWhile_append_of_stop blank visible⟩
        simp only [read, nothing] at found
        split at found
        · next rest =>
            cases found
            refine ⟨?_, rest, by simp⟩
            simpa using IsParameterList.empty blankBefore blankInside
        · cases found
  · cases found

theorem parameterList?_append {written : List Char} {parameter : Option (List Char)}
    (shape : IsParameterList written parameter) (rest : List Char) :
    parameterList? (written ++ rest) = some ⟨written, parameter⟩ := by
  have opening : isBlank '(' = false := by decide
  have closing : isBlank ')' = false := by decide
  cases shape with
  | @empty before inside blankBefore blankInside =>
      have first : ∀ c ∈ ('(' :: (inside ++ ')' :: rest)).head?, isBlank c = false := by
        simp [opening]
      have second : ∀ c ∈ (')' :: rest).head?, isBlank c = false := by simp [closing]
      have text : before ++ '(' :: (inside ++ [')']) ++ rest =
          before ++ '(' :: (inside ++ ')' :: rest) := by simp
      have unnamed : identifier? (')' :: rest) = none := identifier?_of_not_start (by decide) rest
      rw [text]
      simp [parameterList?, takeWhile_append_of_stop blankBefore first,
        dropWhile_append_of_stop blankBefore first, takeWhile_append_of_stop blankInside second,
        dropWhile_append_of_stop blankInside second, optionalIdentifier, unnamed, closing]
  | @single before inside name after blankBefore blankInside identifier blankAfter =>
      have first : ∀ c ∈ ('(' :: (inside ++ (name ++ (after ++ ')' :: rest)))).head?,
          isBlank c = false := by
        simp [opening]
      have second : ∀ c ∈ (name ++ (after ++ ')' :: rest)).head?, isBlank c = false :=
        identifier.head?_visible _
      have third : ∀ c ∈ (')' :: rest).head?, isBlank c = false := by simp [closing]
      have text : before ++ '(' :: (inside ++ (name ++ (after ++ [')']))) ++ rest =
          before ++ '(' :: (inside ++ (name ++ (after ++ ')' :: rest))) := by simp
      have named : identifier? (name ++ (after ++ ')' :: rest)) =
          some (name, after ++ ')' :: rest) :=
        identifier?_eq_some_iff.mpr
          ⟨identifier, rfl, head?_blanks_append blankAfter (by decide)⟩
      rw [text]
      simp [parameterList?, takeWhile_append_of_stop blankBefore first,
        dropWhile_append_of_stop blankBefore first, takeWhile_append_of_stop blankInside second,
        dropWhile_append_of_stop blankInside second, optionalIdentifier, named,
        takeWhile_append_of_stop blankAfter third, dropWhile_append_of_stop blankAfter third]

/-- A parameter list is found where one is written, whatever follows it. -/
theorem parameterList?_eq_some_iff {text : List Char} {parameters : ParameterList} :
    parameterList? text = some parameters ↔
      IsParameterList parameters.written parameters.parameter ∧
        ∃ rest, text = parameters.written ++ rest := by
  constructor
  · exact isParameterList_of_parameterList?
  · rintro ⟨shape, rest, rfl⟩
    exact parameterList?_append shape rest

/-! ## Headings -/

theorem gap?_eq_some_iff {text gap rest : List Char} :
    gap? text = some (gap, rest) ↔
      IsGap gap ∧ text = gap ++ rest ∧ ∀ c ∈ rest.head?, isBlank c = false := by
  constructor
  · intro found
    obtain ⟨front, tail, rfl, blank, visible⟩ := exists_run isBlank text
    rw [gap?, takeWhile_append_of_stop blank visible,
      dropWhile_append_of_stop blank visible] at found
    cases front with
    | nil => cases found
    | cons c front =>
        cases found
        exact ⟨⟨by simp, blank⟩, rfl, visible⟩
  · rintro ⟨⟨present, blank⟩, rfl, visible⟩
    rw [gap?, takeWhile_append_of_stop blank visible, dropWhile_append_of_stop blank visible]
    cases gap with
    | nil => exact absurd rfl present
    | cons c gap => rfl

/-- A heading is found where a word starts that is a declarator, with white space, an identifier
and perhaps a parameter list after it. -/
theorem heading?_eq_some_iff {before : Option Char} {text : List Char} {heading : Heading} :
    heading? before text = some heading ↔
      wordBoundary before text.head? = true ∧
        ∃ word gap after, String.ofList word ∈ declarators ∧ IsGap gap ∧
          heading.lead = word ++ gap ∧ IsIdentifier heading.name ∧
          (∀ c ∈ after.head?, isIdentifierPart c = false) ∧
          text = word ++ (gap ++ (heading.name ++ after)) ∧
          heading.parameters = parameterList? after := by
  constructor
  · intro found
    refine ⟨(heading?_eq_some found).1, ?_⟩
    unfold heading? at found
    obtain ⟨_, _, guarded⟩ := Option.bind_eq_some_iff.mp found
    obtain ⟨⟨word, afterWord⟩, declared, introduced⟩ := Option.bind_eq_some_iff.mp guarded
    obtain ⟨⟨gap, afterGap⟩, spaced, separated⟩ := Option.bind_eq_some_iff.mp introduced
    obtain ⟨⟨name, after⟩, named, read⟩ := Option.bind_eq_some_iff.mp separated
    obtain ⟨member, rfl⟩ := declarator?_eq_some declared
    obtain ⟨isGap, rfl, _⟩ := gap?_eq_some_iff.mp spaced
    obtain ⟨identifier, rfl, stops⟩ := identifier?_eq_some_iff.mp named
    cases read
    exact ⟨word, gap, after, member, isGap, rfl, identifier, stops, rfl, rfl⟩
  · rintro ⟨boundary, word, gap, after, member, isGap, lead, identifier, stops, rfl, parameters⟩
    have spaced : gap? (gap ++ (heading.name ++ after)) = some (gap, heading.name ++ after) :=
      gap?_eq_some_iff.mpr ⟨isGap, rfl, identifier.head?_visible after⟩
    have named : identifier? (heading.name ++ after) = some (heading.name, after) :=
      identifier?_eq_some_iff.mpr ⟨identifier, rfl, stops⟩
    rw [heading?, guard, if_pos boundary, declarator?_append member]
    obtain ⟨headingLead, name, list⟩ := heading
    simp only at lead parameters spaced named
    simp [spaced, named, lead, parameters]

/-- A heading stands at the start of the text in which it is found. -/
theorem exists_rest_of_heading? {before : Option Char} {text : List Char} {heading : Heading}
    (found : heading? before text = some heading) : ∃ rest, text = heading.written ++ rest := by
  obtain ⟨_, word, gap, after, _, _, lead, _, _, rfl, parameters⟩ := heading?_eq_some_iff.mp found
  rw [Heading.written, lead, parameters]
  cases list : parameterList? after with
  | none => exact ⟨after, by simp⟩
  | some read =>
      obtain ⟨_, rest, rfl⟩ := isParameterList_of_parameterList? list
      exact ⟨rest, by simp⟩

/-! ## The search from heading to heading -/

/-- The search for declarations in a text that starts at an offset, after a character. It passes
characters at which there is no heading, and goes on after a heading. -/
inductive Search : Option Char → Nat → List Char → List Declaration → Prop where
  | done {before : Option Char} {offset : Nat} : Search before offset [] []
  | pass {before : Option Char} {offset : Nat} {c : Char} {rest : List Char}
      {found : List Declaration} : heading? before (c :: rest) = none →
      Search (some c) (offset + c.utf8Size) rest found → Search before offset (c :: rest) found
  | heading {before : Option Char} {offset : Nat} {heading : Heading} {rest : List Char}
      {found : List Declaration} : heading? before (heading.written ++ rest) = some heading →
      Search heading.written.getLast? (offset + byteLength heading.written) rest found →
      Search before offset (heading.written ++ rest) (heading.declaration offset :: found)

theorem declarationsFrom_length (skipped : List Char) (c : Char) (offset : Nat)
    (rest : List Char) :
    declarationsFrom skipped.length (some c) offset (skipped ++ rest) =
      declarationsFrom 0 (c :: skipped).getLast? (offset + byteLength skipped) rest := by
  induction skipped generalizing c offset with
  | nil => rfl
  | cons d skipped ih =>
      rw [List.cons_append, List.length_cons, declarationsFrom, ih, List.getLast?_cons_cons]
      simp [Nat.add_assoc]

theorem declarationsFrom_heading {before : Option Char} {heading : Heading} {rest : List Char}
    (found : heading? before (heading.written ++ rest) = some heading) (offset : Nat) :
    declarationsFrom 0 before offset (heading.written ++ rest) =
      heading.declaration offset ::
        declarationsFrom 0 heading.written.getLast? (offset + byteLength heading.written) rest := by
  cases written : heading.written with
  | nil =>
      obtain ⟨_, word, _, _, _, isGap, lead, _⟩ := heading?_eq_some_iff.mp found
      rw [Heading.written, lead] at written
      simp [isGap.present] at written
  | cons c skipped =>
      rw [written, List.cons_append] at found
      rw [List.cons_append, declarationsFrom, found]
      dsimp only
      rw [written, List.length_cons, Nat.add_sub_cancel, declarationsFrom_length]
      simp [Nat.add_assoc]

theorem search_declarationsFrom (before : Option Char) (offset : Nat) (text : List Char) :
    Search before offset text (declarationsFrom 0 before offset text) := by
  -- The rest after a heading is not the tail of the text, so the induction is on the length.
  induction size : text.length using Nat.strongRecOn generalizing before offset text with
  | ind length ih =>
      cases text with
      | nil => exact .done
      | cons c rest =>
          cases found : heading? before (c :: rest) with
          | none =>
              rw [declarationsFrom_of_none found]
              exact .pass found (ih rest.length (by simp [← size]) _ _ rest rfl)
          | some heading =>
              obtain ⟨after, split⟩ := exists_rest_of_heading? found
              have shorter : after.length < length := by
                rw [← size, split]
                obtain ⟨_, word, gap, _, _, isGap, lead, _⟩ := heading?_eq_some_iff.mp found
                have positive := List.length_pos_of_ne_nil isGap.present
                simp [Heading.written, lead]
                omega
              rw [split] at found ⊢
              rw [declarationsFrom_heading found]
              exact .heading found (ih after.length shorter _ _ after rfl)

end Source

end KarelLint
