import Mathlib.Data.List.DropRight
import KarelLint.Proofs.Source.LayoutSearch

/-! Where calls and declarations stand in a text. A call is found exactly where one starts, and a
declaration is found with the text around its name. So both searches can be compared at the name
of a declaration: what follows it is read by one as a parameter list and by the other as the
arguments of a call. -/

set_option autoImplicit false

namespace KarelLint

/-! ## Places and ends of texts -/

namespace Text

/-- The character that starts at a byte offset. -/
def charAt? (text : List Char) (offset : Nat) : Option Char :=
  (cut? offset text).bind (·.2.head?)

theorem charAt?_append (before after : List Char) :
    charAt? (before ++ after) (byteLength before) = after.head? := by
  rw [charAt?, cut?_byteLength_append]
  rfl

/-- A text without the white space at its two ends. -/
def trim (text : List Char) : List Char :=
  (text.dropWhile isBlank).rdropWhile isBlank

theorem trim_of_blank {text : List Char} (blank : ∀ c ∈ text, isBlank c = true) :
    trim text = [] := by
  rw [trim, List.dropWhile_eq_nil_iff.mpr blank]
  rfl

theorem trim_append {left inner right : List Char} (blankLeft : ∀ c ∈ left, isBlank c = true)
    (blankRight : ∀ c ∈ right, isBlank c = true) (present : inner ≠ [])
    (visible : ∀ c ∈ inner, isBlank c = false) : trim (left ++ (inner ++ right)) = inner := by
  have starts : ∀ c ∈ (inner ++ right).head?, isBlank c = false := by
    intro c first
    rw [List.head?_append_of_ne_nil inner present] at first
    exact visible c (List.mem_of_mem_head? first)
  have ends : ∀ c ∈ inner.reverse.head?, isBlank c = false := by
    intro c last
    exact visible c (List.mem_reverse.mp (List.mem_of_mem_head? last))
  have blankReversed : ∀ c ∈ right.reverse, isBlank c = true :=
    fun c member => blankRight c (List.mem_reverse.mp member)
  rw [trim, dropWhile_append_of_stop blankLeft starts, List.rdropWhile, List.reverse_append,
    dropWhile_append_of_stop blankReversed ends, List.reverse_reverse]

theorem exists_trim (text : List Char) :
    ∃ left right, text = left ++ (trim text ++ right) ∧ (∀ c ∈ left, isBlank c = true) ∧
      ∀ c ∈ right, isBlank c = true := by
  obtain ⟨left, rest, rfl, blankLeft, starts⟩ := exists_run isBlank text
  obtain ⟨right, inner, reversed, blankRight, ends⟩ := exists_run isBlank rest.reverse
  have split : rest = inner.reverse ++ right.reverse := by
    rw [← List.reverse_append, ← reversed, List.reverse_reverse]
  have trimmed : trim (left ++ rest) = inner.reverse := by
    rw [trim, dropWhile_append_of_stop blankLeft starts, List.rdropWhile, reversed,
      dropWhile_append_of_stop blankRight ends]
  refine ⟨left, right.reverse, ?_, blankLeft, ?_⟩
  · rw [trimmed, ← split]
  · intro c member
    exact blankRight c (List.mem_reverse.mp member)

end Text

namespace Source

open Text

/-! ## Calls -/

/-- The calls of a text are the calls at the starts of its ends. -/
theorem mem_callsFrom_iff {before : Option Char} {start : Nat} {text : List Char} {call : Call} :
    call ∈ callsFrom before start text ↔
      ∃ front rest name arguments, text = front ++ rest ∧
        callHead? (front.getLast?.or before) rest = some (name, arguments) ∧
        call = ⟨String.ofList name, start + byteLength front, String.ofList arguments⟩ := by
  induction text generalizing before start with
  | nil =>
      constructor
      · intro member
        cases member
      · rintro ⟨front, rest, name, arguments, split, found, _⟩
        obtain ⟨rfl, rfl⟩ := List.append_eq_nil_iff.mp split.symm
        obtain ⟨_, _, _, after, split⟩ := callHead?_iff.mp found
        simp at split
  | cons c text ih =>
      -- A call further on is found after the first character.
      have later : call ∈ callsFrom (some c) (start + c.utf8Size) text ↔
          ∃ front rest name arguments, c :: text = c :: front ++ rest ∧
            callHead? ((c :: front).getLast?.or before) rest = some (name, arguments) ∧
            call = ⟨String.ofList name, start + byteLength (c :: front),
              String.ofList arguments⟩ := by
        simp only [ih, getLast?_cons_or, List.cons_append, List.cons.injEq, true_and, byteLength_cons,
          Nat.add_assoc]
      constructor
      · intro member
        cases found : callHead? before (c :: text) with
        | none =>
            rw [callsFrom_of_none found] at member
            obtain ⟨front, rest⟩ := later.mp member
            exact ⟨c :: front, rest⟩
        | some head =>
            rw [callsFrom, found] at member
            rcases List.mem_cons.mp member with here | member
            · exact ⟨[], c :: text, head.1, head.2, rfl, found, by simpa using here⟩
            · obtain ⟨front, rest⟩ := later.mp member
              exact ⟨c :: front, rest⟩
      · rintro ⟨front, rest, name, arguments, split, found, same⟩
        cases front with
        | nil =>
            simp only [List.nil_append] at split
            subst split
            simp only [List.getLast?_nil, Option.none_or] at found
            rw [callsFrom, found, same]
            simp
        | cons d front =>
            obtain ⟨rfl, rfl⟩ := List.cons.inj split
            have member := later.mpr ⟨front, rest, name, arguments, rfl, found, same⟩
            rw [callsFrom]
            split
            · exact member
            · exact List.mem_cons_of_mem _ member

/-! ## Parameter lists as arguments -/

theorem enclosed?_of_plain {inside : List Char} (plain : ∀ c ∈ inside, IsPlain c)
    (rest : List Char) : enclosed? 0 (inside ++ ')' :: rest) = some inside := by
  refine enclosed?_eq_some_iff.mpr ⟨?_, rest, rfl⟩
  simpa using level?_append_of_plain plain 0 []

/-- Arguments that read as the inside of a parameter list: white space and at most one
identifier. -/
structure Fits (arguments : List Char) (parameter : Option (List Char)) : Prop where
  trimmed : trim arguments = parameter.getD []
  identifier : ∀ name ∈ parameter, IsIdentifier name

theorem Fits.plain {arguments : List Char} {parameter : Option (List Char)}
    (fits : Fits arguments parameter) : ∀ c ∈ arguments, IsPlain c := by
  obtain ⟨left, right, split, blankLeft, blankRight⟩ := exists_trim arguments
  have inner : ∀ c ∈ trim arguments, IsPlain c := by
    rw [fits.trimmed]
    cases parameter with
    | none => simp
    | some name => exact plain_of_parts (fits.identifier name rfl).parts
  rw [split, List.forall_mem_append, List.forall_mem_append]
  exact ⟨plain_of_blank blankLeft, inner, plain_of_blank blankRight⟩

theorem Fits.of_isParameterList {written inner rest : List Char} {parameter : Option (List Char)}
    (shape : IsParameterList written parameter) (split : '(' :: inner = written ++ rest) :
    ∃ arguments, inner = arguments ++ ')' :: rest ∧ Fits arguments parameter := by
  have visible : isBlank '(' = false := by decide
  -- White space before the parenthesis would be the first character.
  have first {before after : List Char} (blank : ∀ c ∈ before, isBlank c = true)
      (same : '(' :: inner = before ++ '(' :: after) : inner = after := by
    cases before with
    | nil => exact (List.cons.inj same).2
    | cons c before =>
        exact absurd (List.cons.inj same).1.symm
          (ne_of_isBlank (blank c List.mem_cons_self) visible)
  cases shape with
  | @empty before inside blankBefore blankInside =>
      refine ⟨inside, first blankBefore (by simpa using split), trim_of_blank blankInside, ?_⟩
      simp
  | @single before inside name after blankBefore blankInside identifier blankAfter =>
      refine ⟨inside ++ (name ++ after), first blankBefore (by simpa using split), ?_, ?_⟩
      · apply trim_append blankInside blankAfter _ identifier.visible
        obtain ⟨c, tail, rfl, _⟩ := identifier.exists_cons
        exact List.cons_ne_nil c tail
      · simpa using identifier

theorem Fits.isParameterList {arguments : List Char} {parameter : Option (List Char)}
    (fits : Fits arguments parameter) :
    IsParameterList ('(' :: (arguments ++ [')'])) parameter := by
  have nothing : ∀ c ∈ ([] : List Char), isBlank c = true := by simp
  obtain ⟨left, right, split, blankLeft, blankRight⟩ := exists_trim arguments
  rw [fits.trimmed] at split
  cases parameter with
  | none =>
      have blank : ∀ c ∈ arguments, isBlank c = true := by
        intro c member
        rw [split] at member
        rcases List.mem_append.mp member with first | second
        · exact blankLeft c first
        · exact blankRight c (by simpa using second)
      exact .empty nothing blank
  | some name =>
      have single := IsParameterList.single nothing blankLeft (fits.identifier name rfl) blankRight
      rw [split]
      simpa using single

/-- After an opening parenthesis, both searches read the same: there is a parameter list exactly
if the parenthesis is closed and encloses what fits in one. -/
theorem parameterList?_open_iff {inner : List Char} {parameter : Option (List Char)} :
    (parameterList? ('(' :: inner)).map (·.parameter) = some parameter ↔
      ∃ arguments, enclosed? 0 inner = some arguments ∧ Fits arguments parameter := by
  constructor
  · intro found
    obtain ⟨list, read, rfl⟩ := Option.map_eq_some_iff.mp found
    obtain ⟨shape, rest, split⟩ := isParameterList_of_parameterList? read
    obtain ⟨arguments, rfl, fits⟩ := Fits.of_isParameterList shape split
    exact ⟨arguments, enclosed?_of_plain fits.plain rest, fits⟩
  · rintro ⟨arguments, closes, fits⟩
    obtain ⟨_, rest, rfl⟩ := enclosed?_eq_some_iff.mp closes
    have read := parameterList?_append fits.isParameterList rest
    rw [List.cons_append, List.append_assoc, List.singleton_append] at read
    rw [read]
    rfl

theorem IsParameterList.exists_open {written : List Char} {parameter : Option (List Char)}
    (shape : IsParameterList written parameter) :
    ∃ before inside, written = before ++ '(' :: inside ∧ ∀ c ∈ before, isBlank c = true := by
  cases shape with
  | empty blankBefore _ => exact ⟨_, _, rfl, blankBefore⟩
  | single blankBefore _ _ _ => exact ⟨_, _, rfl, blankBefore⟩

theorem head?_of_parameterList? {text : List Char}
    (found : (parameterList? text).isSome = true) :
    text.head? = some '(' ∨ text.head?.any isBlank = true := by
  obtain ⟨list, read⟩ := Option.isSome_iff_exists.mp found
  obtain ⟨shape, rest, rfl⟩ := isParameterList_of_parameterList? read
  obtain ⟨before, inside, written, blank⟩ := shape.exists_open
  rw [written, List.append_assoc]
  cases before with
  | nil => exact .inl rfl
  | cons c before => exact .inr (blank c List.mem_cons_self)

/-! ## Declarations -/

theorem Search.exists_heading {before : Option Char} {offset : Nat} {text : List Char}
    {found : List Declaration} (search : Search before offset text found)
    {declaration : Declaration} (member : declaration ∈ found) :
    ∃ front rest earlier heading, text = front ++ (heading.written ++ rest) ∧
      heading? earlier (heading.written ++ rest) = some heading ∧
      declaration = heading.declaration (offset + byteLength front) := by
  induction search with
  | done => cases member
  | @pass _ _ c _ _ _ _ ih =>
      obtain ⟨front, rest, earlier, heading, rfl, read, same⟩ := ih member
      refine ⟨c :: front, rest, earlier, heading, rfl, read, ?_⟩
      rw [same, byteLength_cons, Nat.add_assoc]
  | @heading before _ first rest _ read _ ih =>
      rcases List.mem_cons.mp member with same | member
      · exact ⟨[], rest, before, first, rfl, read, by simpa using same⟩
      · obtain ⟨front, rest, earlier, heading, rfl, read, same⟩ := ih member
        refine ⟨first.written ++ front, rest, earlier, heading, by simp, read, ?_⟩
        rw [same, byteLength_append, Nat.add_assoc]

/-- The text before and after the name of a declaration. -/
structure NamedBetween (text : List Char) (declaration : Declaration) (front after : List Char) :
    Prop where
  split : text = front ++ (declaration.name.toList ++ after)
  offset : declaration.offset = byteLength front
  identifier : IsIdentifier declaration.name.toList
  stops : ∀ c ∈ after.head?, isIdentifierPart c = false
  spaced : front.getLast?.any isWord = false
  parenthesized : declaration.parenthesized = (parameterList? after).isSome
  parameter : declaration.parameter =
    ((parameterList? after).bind (·.parameter)).map String.ofList

theorem exists_namedBetween {text : String} {declaration : Declaration}
    (member : declaration ∈ declarations text) :
    ∃ front after, NamedBetween text.toList declaration front after := by
  obtain ⟨front, rest, earlier, heading, split, read, rfl⟩ :=
    (search_declarationsFrom none 0 text.toList).exists_heading member
  obtain ⟨_, word, gap, after, _, isGap, lead, identifier, stops, whole, parameters⟩ :=
    heading?_eq_some_iff.mp read
  have named : (heading.declaration (0 + byteLength front)).name.toList = heading.name :=
    String.toList_ofList
  refine ⟨front ++ (word ++ gap), after, ?_, ?_, ?_, stops, ?_, ?_, ?_⟩
  · rw [named, split, whole]
    simp
  · simp [Heading.declaration, lead]
  · rw [named]
    exact identifier
  · obtain ⟨blanks, last, rfl⟩ := List.eq_nil_or_concat gap |>.resolve_left isGap.present
    have blank : isBlank last = true := isGap.blank last (by simp)
    simp [← List.append_assoc, isWord_of_isBlank blank]
  · simp [Heading.declaration, parameters]
  · simp [Heading.declaration, parameters]

/-- The character after the name of a declaration. -/
def Declaration.next? (declaration : Declaration) (text : String) : Option Char :=
  charAt? text.toList (declaration.offset + declaration.name.utf8ByteSize)

namespace NamedBetween

variable {text : String} {declaration : Declaration} {front after : List Char}

theorem next?_eq (named : NamedBetween text.toList declaration front after) :
    declaration.next? text = after.head? := by
  have size : declaration.offset + declaration.name.utf8ByteSize =
      byteLength (front ++ declaration.name.toList) := by
    rw [named.offset, byteLength_append, byteLength_toList]
  rw [Declaration.next?, size, named.split, ← List.append_assoc, charAt?_append]

/-- A call at the name of a declaration has that name, and its arguments stand in parentheses
directly after it. -/
theorem mem_calls_iff (named : NamedBetween text.toList declaration front after) {call : Call} :
    call ∈ calls text ∧ call.offset = declaration.offset ↔
      ∃ inner arguments, after = '(' :: inner ∧ enclosed? 0 inner = some arguments ∧
        call = ⟨declaration.name, declaration.offset, String.ofList arguments⟩ := by
  have starts (rest : List Char) : wordBoundary front.getLast?
      (declaration.name.toList ++ rest).head? = true := by
    obtain ⟨first, tail, same, part⟩ := named.identifier.exists_cons
    rw [same]
    exact wordBoundary_start named.spaced (isWord_of_isIdentifierPart part)
  have identified : identifier? (declaration.name.toList ++ after) =
      some (declaration.name.toList, after) :=
    identifier?_eq_some_iff.mpr ⟨named.identifier, rfl, named.stops⟩
  rw [calls, mem_callsFrom_iff]
  constructor
  · rintro ⟨⟨front', rest, name, arguments, split, found, rfl⟩, here⟩
    rw [named.offset] at here
    obtain ⟨rfl, rfl⟩ := append_inj_of_byteLength (named.split.symm.trans split)
      (by simpa using here.symm)
    obtain ⟨_, inner, read, closes⟩ := callHead?_eq_some_iff.mp found
    rw [identified] at read
    cases read
    refine ⟨inner, arguments, rfl, closes, ?_⟩
    simp [named.offset]
  · rintro ⟨inner, arguments, rfl, closes, rfl⟩
    refine ⟨⟨front, declaration.name.toList ++ '(' :: inner, declaration.name.toList, arguments,
      named.split, ?_, ?_⟩, rfl⟩
    · rw [Option.or_none]
      exact callHead?_eq_some_iff.mpr ⟨starts _, inner, identified, closes⟩
    · simp [named.offset]

end NamedBetween

end Source

end KarelLint
