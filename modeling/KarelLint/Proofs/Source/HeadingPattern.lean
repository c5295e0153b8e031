import KarelLint.Proofs.Text.Pattern
import KarelLint.Proofs.Source.Sites

/-! Declarations as the matches of one pattern. At each place the preferred way of the pattern is
the heading that stands there, so the search for the pattern meets the sites of the text one after
another. -/

set_option autoImplicit false

namespace KarelLint

theorem Text.IsIdentifier.getLast?_or_isWord {name : List Char} (identifier : IsIdentifier name)
    (before : Option Char) : (name.getLast?.or before).any isWord = true := by
  cases last : name.getLast? with
  | none =>
      rw [List.getLast?_eq_none_iff.mp last] at identifier
      cases identifier
  | some c => exact isWord_of_isIdentifierPart (identifier.parts c (List.mem_of_getLast? last))

namespace Source

open Text

def identifierPattern : Pattern :=
  .sequence (.one isIdentifierStart) (.many isIdentifierPart)

/-- A parameter list, with the parameter as group 3. -/
def parameterPattern : Pattern :=
  .sequence (.many isBlank) <| .sequence (.one (· == '(')) <| .sequence (.many isBlank) <|
    .sequence (.optional (.group 3 identifierPattern)) <|
      .sequence (.many isBlank) (.one (· == ')'))

/-- A declaration up to its name, which is group 1, with another pattern after it. -/
def namedPattern (later : Pattern) : Pattern :=
  .sequence .boundary <|
    .sequence (.anyOf (declarators.map fun declarator => .word declarator.toList)) <|
      .sequence (.one isBlank) <| .sequence (.many isBlank) <|
        .sequence (.group 1 identifierPattern) later

/-- A declaration, with the name as group 1 and the parameter list as group 2. -/
def headingPattern : Pattern :=
  .sequence .boundary <|
    .sequence (.anyOf (declarators.map fun declarator => .word declarator.toList)) <|
      .sequence (.one isBlank) <| .sequence (.many isBlank) <|
        .sequence (.group 1 identifierPattern) (.optional (.group 2 parameterPattern))

/-- The site that a match of the pattern reports. -/
def Site.ofMatch? (found : Match) : Option Site := do
  let name ← found.capture? 1
  return {
    start := found.start
    stop := found.stop.offset
    declaration := {
      name := String.ofList name.written
      offset := name.offset
      parameter := (found.capture? 3).map fun parameter => String.ofList parameter.written
      parenthesized := (found.capture? 2).isSome } }

section Ways

variable {cursor stop : Cursor} {rest : List Char}

theorem prefers_identifier {name : List Char} (identifier : IsIdentifier name)
    (follows : cursor.rest = name ++ rest) (stops : ∀ c ∈ rest.head?, isIdentifierPart c = false) :
    identifierPattern.Prefers cursor (cursor.passed name rest) := by
  cases name with
  | nil => cases identifier
  | cons c tail =>
      have first : (Pattern.one isIdentifierStart).Prefers cursor
          (cursor.passed [c] (tail ++ rest)) := Pattern.prefers_one follows identifier.1
      have later : (Pattern.many isIdentifierPart).Prefers (cursor.passed [c] (tail ++ rest))
          ((cursor.passed [c] (tail ++ rest)).passed tail rest) :=
        Pattern.prefers_many rfl identifier.2 stops
      rw [Cursor.passed_passed] at later
      exact first.sequence later

theorem mem_ways_identifier (reached : stop ∈ identifierPattern.ways cursor) :
    ∃ name rest, cursor.rest = name ++ rest ∧ IsIdentifier name ∧
      stop = cursor.passed name rest := by
  obtain ⟨middle, first, later⟩ := Pattern.mem_ways_sequence.mp reached
  obtain ⟨c, after, follows, start, rfl⟩ := Pattern.mem_ways_one first
  obtain ⟨tail, rest, split, parts, rfl⟩ := Pattern.mem_ways_many later
  refine ⟨c :: tail, rest, ?_, ⟨start, parts⟩, ?_⟩
  · rw [follows, List.cons_append, ← split]
    rfl
  · rw [Cursor.passed_passed, List.singleton_append]

theorem prefers_name {name : List Char} (identifier : IsIdentifier name)
    (follows : cursor.rest = name ++ rest) (stops : ∀ c ∈ rest.head?, isIdentifierPart c = false)
    (number : Nat) :
    (Pattern.group number identifierPattern).Prefers cursor
      ((cursor.passed name rest).noting [(number, ⟨cursor.offset, name⟩)]) := by
  have grouped := (prefers_identifier identifier follows stops).group number
  rwa [Cursor.record_eq follows] at grouped

/-! ## Parameter lists -/

/-- A way through a parameter list is given by the way that its parameter takes. -/
theorem prefers_enclosing {before inside tail after : List Char} {named : Cursor}
    (blankBefore : ∀ c ∈ before, isBlank c = true) (blankInside : ∀ c ∈ inside, isBlank c = true)
    (blankAfter : ∀ c ∈ after, isBlank c = true) (visible : ∀ c ∈ tail.head?, isBlank c = false)
    (follows : cursor.rest = before ++ '(' :: (inside ++ tail))
    (parameter : (Pattern.optional (.group 3 identifierPattern)).Prefers
      (cursor.passed (before ++ '(' :: inside) tail) named)
    (ends : named.rest = after ++ ')' :: rest) :
    parameterPattern.Prefers cursor (named.passed (after ++ [')']) rest) := by
  have opening : ∀ c ∈ ('(' :: (inside ++ tail)).head?, isBlank c = false :=
    stops_cons (by decide) _
  have closing : ∀ c ∈ (')' :: rest).head?, isBlank c = false := stops_cons (by decide) rest
  have entered : cursor.passed (before ++ '(' :: inside) tail =
      ((cursor.passed before ('(' :: (inside ++ tail))).passed ['('] (inside ++ tail)).passed
        inside tail := by
    simp [Cursor.passed_passed]
  rw [entered] at parameter
  rw [← Cursor.passed_passed named after [')'] (')' :: rest) rest]
  exact (Pattern.prefers_many follows blankBefore opening).sequence <|
    Pattern.Prefers.sequence (Pattern.prefers_one rfl rfl) <|
      (Pattern.prefers_many rfl blankInside visible).sequence <|
        parameter.sequence <|
          (Pattern.prefers_many ends blankAfter closing).sequence (Pattern.prefers_one rfl rfl)

theorem prefers_parameters {list : List Char} {parameter : Option (List Char)}
    (shape : IsParameterList list parameter) (follows : cursor.rest = list ++ rest) :
    ∃ offset, parameterPattern.Prefers cursor
      ((cursor.passed list rest).noting
        (parameter.map fun name => (3, ⟨offset, name⟩)).toList) := by
  cases shape with
  | @empty before inside blankBefore blankInside =>
      let reached := cursor.passed (before ++ '(' :: inside) (')' :: rest)
      have unnamed : (Pattern.group 3 identifierPattern).ways reached = [] := by
        refine List.eq_nil_iff_forall_not_mem.mpr fun stop member => ?_
        obtain ⟨_, member, _⟩ := Pattern.mem_ways_group member
        obtain ⟨name, after, starts, identifier, _⟩ := mem_ways_identifier member
        obtain ⟨c, first, start⟩ := identifier.exists_start after
        rw [← starts] at first
        cases first
        revert start
        decide
      have visible : ∀ c ∈ (')' :: rest).head?, isBlank c = false := stops_cons (by decide) rest
      have path := @prefers_enclosing cursor rest before inside (')' :: rest) [] reached blankBefore
        blankInside (by simp) visible (by simpa using follows)
        (.right unnamed (Pattern.prefers_empty reached)) rfl
      exact ⟨0, by simpa [reached, Cursor.passed_passed, Cursor.noting_nil] using path⟩
  | @single before inside name after blankBefore blankInside identifier blankAfter =>
      let reached := cursor.passed (before ++ '(' :: inside) (name ++ (after ++ ')' :: rest))
      have named := @prefers_name reached (after ++ ')' :: rest) name identifier rfl
        (head?_blanks_append blankAfter (by decide)) 3
      have path := prefers_enclosing blankBefore blankInside blankAfter
        (identifier.head?_visible (after ++ ')' :: rest)) (by simpa using follows)
        (named.left .empty) rfl
      exact ⟨reached.offset, by
        simpa [reached, Cursor.passed_passed, Cursor.passed_noting] using path⟩

theorem exists_parameters_of_mem_ways (reached : stop ∈ parameterPattern.ways cursor) :
    ∃ list parameter rest, IsParameterList list parameter ∧ cursor.rest = list ++ rest := by
  simp only [parameterPattern, Pattern.mem_ways_sequence] at reached
  obtain ⟨_, blanks, _, opened, _, inside, _, named, _, trailing, closed⟩ := reached
  obtain ⟨before, _, follows, blankBefore, rfl⟩ := Pattern.mem_ways_many blanks
  obtain ⟨c, _, rfl, opening, rfl⟩ := Pattern.mem_ways_one opened
  obtain ⟨inner, _, rfl, blankInside, rfl⟩ := Pattern.mem_ways_many inside
  obtain ⟨after, _, ends, blankAfter, rfl⟩ := Pattern.mem_ways_many trailing
  obtain ⟨d, rest, rfl, closing, rfl⟩ := Pattern.mem_ways_one closed
  obtain rfl := beq_iff_eq.mp opening
  obtain rfl := beq_iff_eq.mp closing
  rcases Pattern.mem_ways_optional named with grouped | rfl
  · obtain ⟨_, taken, rfl⟩ := Pattern.mem_ways_group grouped
    obtain ⟨name, _, rfl, identifier, rfl⟩ := mem_ways_identifier taken
    obtain rfl : _ = after ++ ')' :: rest := ends
    exact ⟨_, some name, rest, .single blankBefore blankInside identifier blankAfter,
      by simp [follows]⟩
  · obtain rfl : _ = after ++ ')' :: rest := ends
    have blank : ∀ c ∈ inner ++ after, isBlank c = true := by
      simpa [or_imp, forall_and] using ⟨blankInside, blankAfter⟩
    exact ⟨_, none, rest, .empty blankBefore blank, by simp [follows]⟩

theorem prefers_completion {list after : List Char} {parameter : Option (List Char)}
    {parenthesized : Bool} (completed : Completed list after parameter parenthesized)
    (follows : cursor.rest = list ++ after) :
    ∃ captures, (Pattern.optional (.group 2 parameterPattern)).Prefers cursor
        ((cursor.passed list after).noting captures) ∧
      captures.lookup 1 = none ∧ (captures.lookup 2).isSome = parenthesized ∧
      (captures.lookup 3).map (·.written) = parameter := by
  cases completed with
  | list shape =>
      obtain ⟨offset, path⟩ := prefers_parameters shape follows
      have grouped := path.group 2
      rw [Cursor.record_eq follows, Cursor.noting_noting] at grouped
      refine ⟨_, grouped.left .empty, ?_⟩
      cases parameter with
      | none => exact ⟨rfl, rfl, rfl⟩
      | some name => exact ⟨rfl, rfl, rfl⟩
  | bare missing =>
      have blocked : (Pattern.group 2 parameterPattern).ways cursor = [] := by
        refine List.eq_nil_iff_forall_not_mem.mpr fun stop member => ?_
        obtain ⟨_, member, _⟩ := Pattern.mem_ways_group member
        obtain ⟨list, parameter, rest, shape, split⟩ := exists_parameters_of_mem_ways member
        exact missing list parameter rest shape (follows.symm.trans split)
      refine ⟨[], ?_, rfl, rfl, rfl⟩
      have here : cursor.passed [] after = cursor := Cursor.passed_nil follows
      rw [Cursor.noting_nil, here]
      exact .right blocked (Pattern.prefers_empty cursor)

/-! ## Headings -/

theorem prefers_anyOf {words : List String} {front : List Char}
    (found : (words.findSome? fun word =>
      (word.toList.isPrefixOf? cursor.rest).map (word.toList, ·)) = some (front, rest)) :
    (Pattern.anyOf (words.map fun word => .word word.toList)).Prefers cursor
      (cursor.passed front rest) := by
  induction words with
  | nil => cases found
  | cons word words ih =>
      rw [List.findSome?_cons] at found
      cases starts : word.toList.isPrefixOf? cursor.rest with
      | none =>
          have blocked : (Pattern.word word.toList).ways cursor = [] := by
            refine List.eq_nil_iff_forall_not_mem.mpr fun stop member => ?_
            obtain ⟨after, follows, _⟩ := Pattern.mem_ways_word member
            rw [List.isPrefixOf?_eq_some_iff_append_eq.mpr follows.symm] at starts
            cases starts
          rw [starts] at found
          exact .right blocked (ih found)
      | some after =>
          rw [starts] at found
          cases found
          have follows := (List.isPrefixOf?_eq_some_iff_append_eq.mp starts).symm
          exact (Pattern.prefers_word follows).left _

/-- Where a heading is found, it is what the preferred way of the pattern takes, if the way to the
end of the heading is also one for the pattern after the name. -/
theorem prefers_named {heading : Heading} {later : Pattern}
    (found : heading? cursor.before cursor.rest = some heading)
    (onward : ∀ named stop : Cursor, cursor.rest = heading.lead ++ (heading.name ++ named.rest) →
      named.before.any isWord = true →
      (Pattern.optional (.group 2 parameterPattern)).Prefers named stop →
      later.Prefers named stop) :
    ∃ after captures, cursor.rest = heading.written ++ after ∧
      (namedPattern later).Prefers cursor
        ((cursor.passed heading.written after).noting captures) ∧
      captures.lookup 1 = some ⟨cursor.offset + byteLength heading.lead, heading.name⟩ ∧
      (captures.lookup 2).isSome = heading.parameters.isSome ∧
      (captures.lookup 3).map (·.written) = heading.parameters.bind (·.parameter) := by
  obtain ⟨boundary, word, gap, tail, declarator, isGap, lead, identifier, stops, follows,
    parameters⟩ := heading?_eq_some_iff.mp found
  obtain ⟨after, split, completed⟩ := exists_completed tail
  rw [← parameters] at split completed
  cases gap with
  | nil => exact absurd rfl isGap.present
  | cons space gap =>
      obtain ⟨spaceBlank, blank⟩ := List.forall_mem_cons.mp isGap.blank
      let declared := cursor.passed word (space :: gap ++ (heading.name ++ tail))
      let spaced := (declared.passed [space] (gap ++ (heading.name ++ tail))).passed gap
        (heading.name ++ tail)
      let named := (spaced.passed heading.name tail).noting [(1, ⟨spaced.offset, heading.name⟩)]
      have declares : (Pattern.anyOf (declarators.map fun word => .word word.toList)).Prefers
          cursor declared := by
        refine prefers_anyOf ?_
        rw [follows]
        exact declarator?_append declarator _
      have names : (Pattern.group 1 identifierPattern).Prefers spaced named :=
        prefers_name identifier rfl stops 1
      obtain ⟨captures, completes, unnamed, listed, parameter⟩ :=
        @prefers_completion named _ _ _ _ completed split
      have reached : cursor.rest = heading.lead ++ (heading.name ++ named.rest) := by
        rw [follows, lead, List.append_assoc]
        rfl
      have path : (namedPattern later).Prefers cursor _ :=
        (Pattern.prefers_boundary boundary).sequence <| declares.sequence <|
          Pattern.Prefers.sequence (Pattern.prefers_one rfl spaceBlank) <|
            (Pattern.prefers_many rfl blank (identifier.head?_visible tail)).sequence <|
              names.sequence (onward _ _ reached (identifier.getLast?_or_isWord _) completes)
      refine ⟨after, captures ++ [(1, ⟨spaced.offset, heading.name⟩)], ?_, ?_, ?_, ?_, ?_⟩
      · rw [follows, split]
        simp [Heading.written, lead]
      · simpa [named, spaced, declared, Cursor.passed_noting, Cursor.passed_passed,
          Cursor.noting_noting, Heading.written, lead] using path
      · simp [List.lookup_append, unnamed, spaced, declared, Cursor.passed, lead, Nat.add_assoc]
      · simp [List.lookup_append, listed]
      · have other : [(1, (⟨spaced.offset, heading.name⟩ : Capture))].lookup 3 = none := rfl
        rw [List.lookup_append, other, Option.or_none, parameter]

/-- A way through the pattern takes a declarator, white space and an identifier, and goes on from
there. -/
theorem exists_named_of_mem_ways {later : Pattern}
    (reached : stop ∈ (namedPattern later).ways cursor) :
    ∃ word gap name rest named, cursor.rest = word ++ (gap ++ (name ++ rest)) ∧
      wordBoundary cursor.before cursor.rest.head? = true ∧ String.ofList word ∈ declarators ∧
      IsGap gap ∧ IsIdentifier name ∧ named.rest = rest ∧ named.before.any isWord = true ∧
      stop ∈ later.ways named := by
  simp only [namedPattern, Pattern.mem_ways_sequence] at reached
  obtain ⟨_, edge, _, word, _, space, _, spaces, _, identified, onward⟩ := reached
  obtain ⟨boundary, rfl⟩ := Pattern.mem_ways_boundary edge
  obtain ⟨_, declared, spelled⟩ := Pattern.mem_ways_anyOf word
  obtain ⟨declarator, member, rfl⟩ := List.mem_map.mp declared
  obtain ⟨_, follows, rfl⟩ := Pattern.mem_ways_word spelled
  obtain ⟨c, _, rfl, blank, rfl⟩ := Pattern.mem_ways_one space
  obtain ⟨blanks, _, rfl, allBlank, rfl⟩ := Pattern.mem_ways_many spaces
  obtain ⟨_, taken, rfl⟩ := Pattern.mem_ways_group identified
  obtain ⟨name, after, rfl, identifier, rfl⟩ := mem_ways_identifier taken
  exact ⟨declarator.toList, c :: blanks, name, after, _, follows, boundary, by simpa using member,
    ⟨by simp, List.forall_mem_cons.mpr ⟨blank, allBlank⟩⟩, identifier, rfl,
    identifier.getLast?_or_isWord _, onward⟩

theorem ways_of_heading?_none {later : Pattern}
    (nothing : heading? cursor.before cursor.rest = none) :
    (namedPattern later).ways cursor = [] := by
  refine List.eq_nil_iff_forall_not_mem.mpr fun stop member => ?_
  obtain ⟨word, gap, name, rest, _, follows, boundary, declarator, isGap, identifier, _⟩ :=
    exists_named_of_mem_ways member
  rw [follows] at boundary nothing
  obtain ⟨heading, found⟩ :=
    exists_heading boundary declarator isGap (identifier.exists_start rest)
  exact absurd (nothing.symm.trans found) (by simp)

end Ways

/-! ## The search for the pattern -/

/-- The sites that the search for a pattern of declarations reports from a place on. -/
def namedSites (later : Pattern) (cursor : Cursor) : List Site :=
  ((namedPattern later).matchesFrom cursor).filterMap Site.ofMatch?

section Named

variable {later : Pattern} {cursor : Cursor} {rest : List Char}

theorem namedSites_heading {heading : Heading}
    (found : heading? cursor.before cursor.rest = some heading)
    (onward : ∀ named stop : Cursor, cursor.rest = heading.lead ++ (heading.name ++ named.rest) →
      named.before.any isWord = true →
      (Pattern.optional (.group 2 parameterPattern)).Prefers named stop →
      later.Prefers named stop)
    (follows : cursor.rest = heading.written ++ rest) (fresh : cursor.captures = []) :
    namedSites later cursor =
      heading.site cursor.offset :: namedSites later (cursor.passed heading.written rest) := by
  obtain ⟨after, captures, split, path, name, listed, parameter⟩ := prefers_named found onward
  obtain rfl : rest = after := List.append_cancel_left (follows.symm.trans split)
  have shorter : rest.length < cursor.rest.length := by
    have present := List.length_pos_of_ne_nil (written_ne_nil found)
    simp [follows]
    omega
  have reported : Site.ofMatch?
      ⟨cursor.offset, (cursor.passed heading.written rest).noting captures⟩ =
        some (heading.site cursor.offset) := by
    have whole : ((cursor.passed heading.written rest).noting captures).captures = captures := by
      simp [Cursor.noting, Cursor.passed, fresh]
    simp [Site.ofMatch?, Match.capture?, whole, name, listed, Heading.site, Heading.declaration,
      ← parameter, Function.comp_def]
    rfl
  have cleared : { (cursor.passed heading.written rest).noting captures with captures := [] } =
      cursor.passed heading.written rest := by
    simp [Cursor.noting, Cursor.passed, fresh]
  rw [namedSites, Pattern.matchesFrom_of_match? (path.match? shorter), cleared,
    List.filterMap_cons, reported]
  rfl

theorem namedSites_of_ways (blocked : (namedPattern later).ways cursor = []) :
    namedSites later cursor =
      match cursor.rest with
      | [] => []
      | c :: rest => namedSites later (cursor.passed [c] rest) := by
  have nothing : (namedPattern later).match? cursor = none := by
    rw [Pattern.match?, blocked]
    rfl
  rw [namedSites, Pattern.matchesFrom_of_none nothing]
  cases cursor.rest with
  | nil => rfl
  | cons c rest => rfl

theorem namedSites_pass {c : Char} (blocked : (namedPattern later).ways cursor = [])
    (follows : cursor.rest = c :: rest) :
    namedSites later cursor = namedSites later (cursor.passed [c] rest) := by
  rw [namedSites_of_ways blocked, follows]

theorem namedSites_done (ended : cursor.rest = []) : namedSites later cursor = [] := by
  have nothing : heading? cursor.before cursor.rest = none := by
    cases found : heading? cursor.before cursor.rest with
    | none => rfl
    | some heading =>
        obtain ⟨rest, split⟩ := exists_rest_of_heading? found
        rw [ended] at split
        exact absurd (List.append_eq_nil_iff.mp split.symm).1 (written_ne_nil found)
  rw [namedSites_of_ways (ways_of_heading?_none nothing), ended]

end Named

theorem passed_written {before : Option Char} {text : List Char} {heading : Heading}
    (found : heading? before text = some heading) (offset : Nat) (after : List Char) :
    (Cursor.mk before offset text []).passed heading.written after =
      ⟨heading.written.getLast?, offset + byteLength heading.written, after, []⟩ := by
  rw [Cursor.passed, Option.or_of_isSome (List.getLast?_isSome.mpr (written_ne_nil found))]

/-- The sites that the search for the pattern reports from a place on. -/
def sitesFrom (cursor : Cursor) : List Site :=
  (headingPattern.matchesFrom cursor).filterMap Site.ofMatch?

theorem sitesFrom_eq (cursor : Cursor) :
    sitesFrom cursor = namedSites (.optional (.group 2 parameterPattern)) cursor :=
  rfl

/-- The search for the pattern meets the sites of the text one after another, and their
declarations are those that are found from heading to heading. -/
theorem Search.sitesFrom {before : Option Char} {offset : Nat} {rest : List Char}
    {found : List Declaration} (search : Search before offset rest found) {front : List Char}
    (last : before = front.getLast?) (length : offset = byteLength front) :
    Recognised (front ++ rest) offset (sitesFrom ⟨before, offset, rest, []⟩) ∧
      (sitesFrom ⟨before, offset, rest, []⟩).map (·.declaration) = found := by
  induction search generalizing front with
  | @done before offset =>
      subst length
      rw [sitesFrom_eq, namedSites_done rfl, List.append_nil]
      exact ⟨.done front, rfl⟩
  | @pass before offset c rest found nothing _ ih =>
      subst last length
      have onward : (Cursor.mk front.getLast? (byteLength front) (c :: rest) []).passed [c] rest =
          ⟨some c, byteLength front + c.utf8Size, rest, []⟩ := by
        simp [Cursor.passed]
      obtain ⟨recognised, declared⟩ := @ih (front ++ [c]) (by simp) (by simp)
      rw [List.append_assoc, List.singleton_append] at recognised
      rw [sitesFrom_eq, namedSites_pass (ways_of_heading?_none nothing) rfl, onward]
      exact ⟨recognised.pass nothing, declared⟩
  | @heading before offset heading rest found here _ ih =>
      subst last length
      have present := written_ne_nil here
      have ends : (front ++ heading.written).getLast? = heading.written.getLast? :=
        List.getLast?_append_of_ne_nil _ present
      obtain ⟨recognised, declared⟩ := @ih (front ++ heading.written) ends.symm (by simp)
      rw [List.append_assoc] at recognised
      rw [sitesFrom_eq, namedSites_heading here (fun _ _ _ _ path => path) rfl rfl,
        passed_written here, ← sitesFrom_eq]
      exact ⟨recognised.heading here, by rw [List.map_cons, declared]; rfl⟩

/-- The declarations of a text are those at its sites. These are determined by the text, and they
are what the search for the pattern reports. -/
theorem declarations_recognised (text : String) :
    ∃ sites, Recognised text.toList 0 sites ∧
      (∀ others, Recognised text.toList 0 others → others = sites) ∧
      (∀ site ∈ sites, site.start < site.stop) ∧
      declarations text = sites.map (·.declaration) ∧
      (headingPattern.matchesFrom (Cursor.start text.toList)).filterMap Site.ofMatch? = sites := by
  have search := search_declarationsFrom none 0 text.toList
  obtain ⟨recognised, declared⟩ := @Search.sitesFrom _ _ _ _ search [] rfl rfl
  exact ⟨_, recognised, fun _ recognised' => recognised'.unique recognised,
    fun site member => (recognised.declares site member).start_lt_stop, declared.symm, rfl⟩

-- The second declarator is the name of the first declaration, so none opens there, and a list of
-- two parameters is given up as a whole.
example : (declarations "define define f() void g(a b)").map
    (fun declaration => (declaration.name, declaration.offset, declaration.parenthesized)) =
      [("define", 7, false), ("g", 23, false)] := by
  decide +kernel

end Source

end KarelLint
