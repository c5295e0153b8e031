import KarelLint.Proofs.Source.HeadingPattern
import KarelLint.Proofs.Source.Nesting

/-! Declared names as words. A name is read as far as an identifier goes, but a word may go on with
letters and digits that no identifier has, and then the name is only a fragment of it. A search that
asks for a word boundary after the name passes over these declarations and finds all others. -/

set_option autoImplicit false

namespace KarelLint

namespace Text

theorem isIdentifierPart_of_isWord {c : Char} (word : isWord c = true) (plain : c.toNat < 128) :
    isIdentifierPart c = true := by
  have all : ∀ point < 128, isWord (Char.ofNat point) = true →
      isIdentifierPart (Char.ofNat point) = true := by
    decide
  have part := all c.toNat plain
  rw [Char.ofNat_toNat] at part
  exact part word

theorem isBlank_of_isWord {c : Char} (word : isWord c = true) : isBlank c = false := by
  cases blank : isBlank c with
  | false => rfl
  | true =>
      rw [isWord_of_isBlank blank] at word
      cases word

theorem IsIdentifier.words {name : List Char} (identifier : IsIdentifier name) :
    ∀ c ∈ name, isWord c = true :=
  fun c member => isWord_of_isIdentifierPart (identifier.parts c member)

end Text

namespace Source

open Text

/-- The name is not a fragment: no word character follows it. -/
def Declaration.endsWord (text : String) (declaration : Declaration) : Bool :=
  !(declaration.next? text).any isWord

/-- What follows a whole name: a word boundary, and the parameter list where one is written. -/
def wholeEnd : Pattern :=
  .sequence .boundary (.optional (.group 2 parameterPattern))

/-! ## Stretches without a heading -/

/-- Nothing that starts in `front` is a heading. -/
def Clear (before : Option Char) : List Char → List Char → Prop
  | [], _ => True
  | c :: front, rest => heading? before (c :: front ++ rest) = none ∧ Clear (some c) front rest

theorem Clear.append {before : Option Char} {front middle rest : List Char}
    (first : Clear before front (middle ++ rest))
    (second : Clear (front.getLast?.or before) middle rest) :
    Clear before (front ++ middle) rest := by
  induction front generalizing before with
  | nil => exact second
  | cons c front ih =>
      rw [getLast?_cons_or] at second
      obtain ⟨nothing, later⟩ := first
      refine ⟨?_, ih later second⟩
      rwa [← List.append_assoc] at nothing

theorem clear_of_not_start {front : List Char} (nothing : ∀ c ∈ front, isIdentifierStart c = false)
    (before : Option Char) (rest : List Char) : Clear before front rest := by
  induction front generalizing before with
  | nil => trivial
  | cons c front ih =>
      exact ⟨heading?_of_not_start (nothing c List.mem_cons_self) before _,
        ih (fun d member => nothing d (List.mem_cons_of_mem _ member)) (some c)⟩

theorem clear_inside {before : Char} {tail : List Char} (word : isWord before = true)
    (words : ∀ c ∈ tail, isWord c = true) (rest : List Char) : Clear (some before) tail rest := by
  induction tail generalizing before with
  | nil => trivial
  | cons c tail ih =>
      have starts : isWord c = true := words c List.mem_cons_self
      exact ⟨heading?_inside word starts _,
        ih starts fun d member => words d (List.mem_cons_of_mem _ member)⟩

/-- Not even a declarator starts a heading if its word goes on. -/
theorem clear_of_fragment {name rest : List Char} (identifier : IsIdentifier name)
    (stops : ∀ c ∈ rest.head?, isIdentifierPart c = false)
    (fragment : rest.head?.any isWord = true) (before : Option Char) : Clear before name rest := by
  cases rest with
  | nil => cases fragment
  | cons next rest =>
      rw [List.head?_cons, Option.any_some] at fragment
      have visible := isBlank_of_isWord fragment
      have nothing := heading?_of_word identifier (stops next rfl) (by simp [visible]) before rest
      have words := identifier.words
      cases name with
      | nil => trivial
      | cons c tail =>
          obtain ⟨starts, inside⟩ := List.forall_mem_cons.mp words
          exact ⟨nothing, clear_inside starts inside _⟩

theorem namedSites_clear {later : Pattern} {cursor : Cursor} {front rest : List Char}
    (clear : Clear cursor.before front rest) (follows : cursor.rest = front ++ rest) :
    namedSites later cursor = namedSites later (cursor.passed front rest) := by
  induction front generalizing cursor with
  | nil =>
      have here : cursor.passed [] rest = cursor := Cursor.passed_nil follows
      rw [here]
  | cons c front ih =>
      obtain ⟨nothing, later⟩ := clear
      rw [← follows] at nothing
      rw [namedSites_pass (ways_of_heading?_none nothing) follows, ih later rfl,
        Cursor.passed_passed]
      rfl

/-! ## Headings of fragments -/

section Headings

variable {before : Option Char} {text tail : List Char} {heading : Heading}

theorem exists_tail_of_heading? (found : heading? before text = some heading) :
    ∃ tail, text = heading.lead ++ (heading.name ++ tail) ∧
      heading.parameters = parameterList? tail := by
  obtain ⟨_, word, gap, tail, _, _, lead, _, _, follows, parameters⟩ :=
    heading?_eq_some_iff.mp found
  exact ⟨tail, by rw [follows, lead, List.append_assoc], parameters⟩

/-- The pattern takes a heading only if its name is whole. -/
theorem not_isWord_of_mem_ways {cursor stop : Cursor} {heading : Heading}
    (reached : stop ∈ (namedPattern wholeEnd).ways cursor)
    (found : heading? cursor.before cursor.rest = some heading)
    (follows : cursor.rest = heading.lead ++ (heading.name ++ tail)) :
    tail.head?.any isWord = false := by
  obtain ⟨word, gap, name, rest, named, split, boundary, declarator, isGap, identifier, rfl, last,
    onward⟩ := exists_named_of_mem_ways reached
  obtain ⟨_, edge, _⟩ := Pattern.mem_ways_sequence.mp onward
  have ends : named.rest.head?.any isWord = false := by
    have boundary := (Pattern.mem_ways_boundary edge).1
    simpa [wordBoundary, last] using boundary
  -- The name cannot be shorter than the identifier, since no word ends inside it.
  have stops : ∀ c ∈ named.rest.head?, isIdentifierPart c = false := by
    intro c first
    rw [Option.mem_def.mp first] at ends
    exact isIdentifierPart_of_not_isWord ends
  have same : heading? cursor.before cursor.rest =
      some ⟨word ++ gap, name, parameterList? named.rest⟩ :=
    heading?_eq_some_iff.mpr ⟨boundary, word, gap, named.rest, declarator, isGap, rfl, identifier,
      stops, split, rfl⟩
  cases found.symm.trans same
  rw [split, List.append_assoc] at follows
  have tails := List.append_cancel_left (List.append_cancel_left (List.append_cancel_left follows))
  rw [← tails]
  exact ends

theorem written_of_fragment (found : heading? before text = some heading)
    (follows : text = heading.lead ++ (heading.name ++ tail))
    (fragment : tail.head?.any isWord = true) :
    heading.written = heading.lead ++ heading.name := by
  obtain ⟨tail', follows', parameters⟩ := exists_tail_of_heading? found
  rw [follows'] at follows
  obtain rfl := List.append_cancel_left (List.append_cancel_left follows)
  cases listed : parameterList? tail' with
  | none => simp [Heading.written, parameters, listed]
  | some list =>
      have starts := head?_of_parameterList? (Option.isSome_of_eq_some listed)
      cases tail' with
      | nil => cases fragment
      | cons c tail' =>
          rcases starts with opens | blank
          · cases opens
            have closed : isWord '(' = false := by decide
            rw [List.head?_cons, Option.any_some, closed] at fragment
            cases fragment
          · rw [List.head?_cons, Option.any_some] at fragment blank
            rw [isBlank_of_isWord fragment] at blank
            cases blank

/-- No heading starts inside the heading of a fragment. -/
theorem exists_clear_of_fragment {rest : List Char}
    (found : heading? before (heading.written ++ rest) = some heading)
    (follows : heading.written ++ rest = heading.lead ++ (heading.name ++ tail))
    (fragment : tail.head?.any isWord = true) :
    ∃ c front, heading.written = c :: front ∧ Clear (some c) front rest := by
  have written := written_of_fragment found follows fragment
  rw [written, List.append_assoc] at follows
  obtain rfl := List.append_cancel_left (List.append_cancel_left follows)
  obtain ⟨_, word, gap, tail, declarator, isGap, lead, identifier, stops, split, _⟩ :=
    heading?_eq_some_iff.mp found
  rw [written, lead, List.append_assoc, List.append_assoc] at split
  obtain rfl := List.append_cancel_left (List.append_cancel_left (List.append_cancel_left split))
  have declares := isIdentifier_of_mem_declarators declarator
  cases word with
  | nil => cases declares
  | cons c word =>
      obtain ⟨starts, inside⟩ := List.forall_mem_cons.mp declares.words
      have spaced := (clear_of_not_start (IsGap.not_start isGap) (word.getLast?.or (some c))
        (heading.name ++ rest)).append (clear_of_fragment identifier stops fragment _)
      refine ⟨c, word ++ (gap ++ heading.name), by simp [written, lead], ?_⟩
      exact (clear_inside starts inside _).append spaced

end Headings

/-! ## The search for whole names -/

section Steps

variable {cursor : Cursor} {heading : Heading} {rest tail : List Char}

theorem namedSites_of_whole (found : heading? cursor.before cursor.rest = some heading)
    (follows : cursor.rest = heading.written ++ rest)
    (named : cursor.rest = heading.lead ++ (heading.name ++ tail))
    (whole : tail.head?.any isWord = false) (fresh : cursor.captures = []) :
    namedSites wholeEnd cursor =
      heading.site cursor.offset :: namedSites wholeEnd (cursor.passed heading.written rest) := by
  apply namedSites_heading found _ follows fresh
  intro place stop reached last path
  rw [named] at reached
  have same := List.append_cancel_left (List.append_cancel_left reached)
  have edge : wordBoundary place.before place.rest.head? = true := by
    rw [wordBoundary, last, ← same, whole]
    rfl
  exact (Pattern.prefers_boundary edge).sequence path

theorem namedSites_of_fragment (found : heading? cursor.before cursor.rest = some heading)
    (follows : cursor.rest = heading.written ++ rest)
    (named : cursor.rest = heading.lead ++ (heading.name ++ tail))
    (fragment : tail.head?.any isWord = true) :
    namedSites wholeEnd cursor = namedSites wholeEnd (cursor.passed heading.written rest) := by
  have blocked : (namedPattern wholeEnd).ways cursor = [] := by
    refine List.eq_nil_iff_forall_not_mem.mpr fun stop member => ?_
    have whole := not_isWord_of_mem_ways member found named
    rw [fragment] at whole
    cases whole
  rw [follows] at found named
  obtain ⟨c, inside, written, clear⟩ := exists_clear_of_fragment found named fragment
  rw [written, List.cons_append] at follows
  rw [namedSites_pass blocked follows, namedSites_clear clear rfl, Cursor.passed_passed, written]
  rfl

end Steps

theorem Heading.endsWord_declaration {text : String} {front tail : List Char} {heading : Heading}
    (split : text.toList = front ++ (heading.lead ++ (heading.name ++ tail))) :
    (heading.declaration (byteLength front)).endsWord text = !tail.head?.any isWord := by
  have place : (heading.declaration (byteLength front)).offset +
      (heading.declaration (byteLength front)).name.utf8ByteSize =
        byteLength (front ++ (heading.lead ++ heading.name)) := by
    simp [Heading.declaration, ← byteLength_toList, Nat.add_assoc]
  have around : text.toList = front ++ (heading.lead ++ heading.name) ++ tail := by
    simp [split]
  rw [Declaration.endsWord, Declaration.next?, place, around, charAt?_append]

/-- The search for whole names goes over the heading of a fragment and meets the others. -/
theorem Search.namedSites_wholeEnd {before : Option Char} {offset : Nat} {rest : List Char}
    {found : List Declaration} (search : Search before offset rest found) {text : String}
    {front : List Char} (split : text.toList = front ++ rest) (length : offset = byteLength front) :
    (namedSites wholeEnd ⟨before, offset, rest, []⟩).map (·.declaration) =
      found.filter (·.endsWord text) := by
  induction search generalizing front with
  | done =>
      rw [namedSites_done rfl]
      rfl
  | @pass before offset c rest found nothing _ ih =>
      have onward := @ih (front ++ [c]) (by simp [split]) (by simp [length])
      rw [namedSites_pass (ways_of_heading?_none nothing) rfl]
      simpa [Cursor.passed] using onward
  | @heading before offset heading rest found here _ ih =>
      obtain ⟨tail, named, _⟩ := exists_tail_of_heading? here
      have onward := @ih (front ++ heading.written) (by simp [split]) (by simp [length])
      have ends : (heading.declaration offset).endsWord text = !tail.head?.any isWord := by
        rw [length]
        exact Heading.endsWord_declaration (by rw [split, named])
      -- Both searches go on after the heading, whether or not it is met here.
      cases fragment : tail.head?.any isWord with
      | false =>
          rw [namedSites_of_whole here rfl named fragment rfl, passed_written here,
            List.filter_cons_of_pos (by simp [ends, fragment]), ← onward]
          rfl
      | true =>
          rw [namedSites_of_fragment here rfl named fragment, passed_written here,
            List.filter_cons_of_neg (by simp [ends, fragment]), ← onward]

/-- The declarations that a search with a word boundary after the name finds. -/
def wholeDeclarations (text : String) : List Declaration :=
  (((namedPattern wholeEnd).matchesFrom (Cursor.start text.toList)).filterMap
    Site.ofMatch?).map (·.declaration)

/-! ## Names in the text -/

/-- A declaration stands in the text after a declarator that starts a word. -/
theorem exists_opening_of_mem {text : String} {declaration : Declaration}
    (member : declaration ∈ declarations text) :
    ∃ before word gap after,
      Opening text.toList before word gap (declaration.name.toList ++ after) ∧
      before.getLast?.any isWord = false ∧
      NamedBetween text.toList declaration (before ++ (word ++ gap)) after := by
  obtain ⟨front, after, named⟩ := exists_namedBetween member
  have search := search_declarationsFrom none 0 text.toList
  obtain ⟨recognised, declared⟩ := @Search.sitesFrom _ _ _ _ search [] rfl rfl
  rw [declarations, ← declared] at member
  obtain ⟨site, listed, rfl⟩ := List.mem_map.mp member
  obtain ⟨before, word, gap, name, list, rest, _, _, opening, identifier, _, _, rfl⟩ :=
    recognised.declares site listed
  have starts := opening.boundary
  rw [wordBoundary_identifier (isIdentifier_of_mem_declarators opening.declarator)] at starts
  have whole : front ++ (name ++ after) = before ++ (word ++ gap) ++ (name ++ (list ++ rest)) := by
    have split := named.split
    rw [String.toList_ofList] at split
    rw [← split]
    simpa using opening.split
  obtain ⟨rfl, same⟩ := append_inj_of_byteLength whole named.offset.symm
  obtain rfl := List.append_cancel_left same
  refine ⟨before, word, gap, list ++ rest, ?_, by simpa using starts, named⟩
  rw [String.toList_ofList]
  exact opening

theorem endsWord_iff {text : String} {declaration : Declaration}
    (stops : ∀ c ∈ declaration.next? text, isIdentifierPart c = false) :
    declaration.endsWord text = true ↔
      ∀ c ∈ declaration.next? text, 128 ≤ c.toNat → isWord c = false := by
  rw [Declaration.endsWord]
  cases next : declaration.next? text with
  | none => simp
  | some c =>
      have other := stops c next
      simp only [Option.any_some, Option.mem_some_iff, forall_eq', Bool.not_eq_true']
      constructor
      · intro ends _
        exact ends
      · intro beyond
        by_cases plain : c.toNat < 128
        · cases word : isWord c with
          | false => rfl
          | true =>
              rw [isIdentifierPart_of_isWord word plain] at other
              cases other
        · exact beyond (Nat.not_lt.mp plain)

/-- The names of all declarations of a text are whole words exactly if none is followed by a word
character beyond those of identifiers. A search with a word boundary after the name leaves out the
others and nothing else. Declarators start a word, and the names of calls are whole. -/
theorem declared_names_whole_iff (text : String) :
    ((∀ declaration ∈ declarations text, declaration.endsWord text = true) ↔
      ∀ declaration ∈ declarations text, ∀ c ∈ declaration.next? text,
        128 ≤ c.toNat → isWord c = false) ∧
    wholeDeclarations text = (declarations text).filter (·.endsWord text) ∧
    (∀ declaration ∈ declarations text, ∃ before word gap after,
      Opening text.toList before word gap (declaration.name.toList ++ after) ∧
      before.getLast?.any isWord = false ∧
      declaration.offset = byteLength (before ++ (word ++ gap)) ∧
      declaration.next? text = after.head?) ∧
    ∀ call ∈ calls text, ∃ before after,
      text.toList = before ++ (call.name.toList ++ '(' :: after) ∧
      call.offset = byteLength before ∧ before.getLast?.any isWord = false := by
  refine ⟨?_, ?_, ?_, ?_⟩
  · refine forall₂_congr fun declaration member => endsWord_iff ?_
    obtain ⟨_, _, named⟩ := exists_namedBetween member
    rw [named.next?_eq]
    exact named.stops
  · have search := search_declarationsFrom none 0 text.toList
    exact @Search.namedSites_wholeEnd _ _ _ _ search text [] rfl rfl
  · intro declaration member
    obtain ⟨before, word, gap, after, opening, starts, named⟩ := exists_opening_of_mem member
    exact ⟨before, word, gap, after, opening, starts, named.offset, named.next?_eq⟩
  · intro call member
    obtain ⟨before, after, between⟩ := mem_calls_iff_between.mp member
    exact ⟨before, call.arguments.toList ++ ')' :: after, by simp [between.split, Call.written],
      between.offset, between.starts⟩

/-- A word with an accented letter is declared up to that letter. -/
theorem fragment_declared :
    declarations "define fooé(x)\nfoo()\nfoo(x)" =
        [{ name := "foo", offset := 7, parameter := none, parenthesized := false }] ∧
      ¬ ∀ text, ∀ declaration ∈ declarations text, declaration.endsWord text = true := by
  have declared : declarations "define fooé(x)\nfoo()\nfoo(x)" = [⟨"foo", 7, none, false⟩] := by
    decide
  refine ⟨declared, fun whole => ?_⟩
  have ends := whole _ ⟨"foo", 7, none, false⟩ (by rw [declared]; exact List.mem_singleton_self _)
  revert ends
  decide

end Source

end KarelLint
