import Mathlib.Data.List.Forall2
import KarelLint.Proofs.Source.Layout
import KarelLint.Proofs.Source.Scanned

/-! The searches of a text do not depend on its layout. In another layout they find the same
things, at the positions that correspond. -/

set_option autoImplicit false

namespace KarelLint.Source

open Text

variable {text other : List Char} {before before' : Option Char} {move : Nat → Nat}
  {start start' : Nat}

/-! ## Characters that are passed over -/

theorem illegalFrom_append (offset : Nat) (left right : List Char) :
    illegalFrom offset (left ++ right) =
      illegalFrom offset left ++ illegalFrom (offset + byteLength left) right := by
  induction left generalizing offset with
  | nil => rfl
  | cons c left ih =>
      rw [List.cons_append, illegalFrom, illegalFrom, ih, byteLength_cons, Nat.add_assoc]
      cases isLegal c with
      | true => rfl
      | false => rfl

theorem getLast?_cons_or (c : Char) (front : List Char) (before : Option Char) :
    (c :: front).getLast?.or before = front.getLast?.or (some c) := by
  cases front with
  | nil => rfl
  | cons d front => rw [List.getLast?_cons_cons, List.getLast?_cons]; rfl

section Passing

variable {front : List Char} (nothing : ∀ c ∈ front, isIdentifierStart c = false)

include nothing

theorem callsFrom_pass (before : Option Char) (offset : Nat) (rest : List Char) :
    callsFrom before offset (front ++ rest) =
      callsFrom (front.getLast?.or before) (offset + byteLength front) rest := by
  induction front generalizing before offset with
  | nil => rfl
  | cons c front ih =>
      have other := nothing c List.mem_cons_self
      rw [List.cons_append, callsFrom_of_none (callHead?_of_not_start other before _),
        ih fun d member => nothing d (List.mem_cons_of_mem _ member), getLast?_cons_or]
      simp [Nat.add_assoc]

theorem declarationsFrom_pass (before : Option Char) (offset : Nat) (rest : List Char) :
    declarationsFrom 0 before offset (front ++ rest) =
      declarationsFrom 0 (front.getLast?.or before) (offset + byteLength front) rest := by
  induction front generalizing before offset with
  | nil => rfl
  | cons c front ih =>
      have other := nothing c List.mem_cons_self
      rw [List.cons_append, declarationsFrom_of_none (heading?_of_not_start other before _),
        ih fun d member => nothing d (List.mem_cons_of_mem _ member), getLast?_cons_or]
      simp [Nat.add_assoc]

end Passing

section Gaps

variable {blanks : List Char}

theorem illegalFrom_gap (gap : IsGap blanks) (offset : Nat) (rest : List Char) :
    illegalFrom offset (blanks ++ rest) = illegalFrom (offset + byteLength blanks) rest := by
  have legal : ∀ c ∈ blanks, isLegal c = true := by
    intro c member
    simp [isLegal, gap.blank c member]
  rw [illegalFrom_append, illegalFrom_eq_nil legal, List.nil_append]

theorem IsGap.getLast?_or (gap : IsGap blanks) (before : Option Char) :
    blanks.getLast?.or before = blanks.getLast? := by
  cases blanks with
  | nil => exact absurd rfl gap.present
  | cons c blanks => rw [List.getLast?_cons]; rfl

theorem IsGap.not_start (gap : IsGap blanks) : ∀ c ∈ blanks, isIdentifierStart c = false :=
  fun c member => isIdentifierStart_of_isBlank (gap.blank c member)

theorem callsFrom_gap (gap : IsGap blanks) (before : Option Char) (offset : Nat)
    (rest : List Char) :
    callsFrom before offset (blanks ++ rest) =
      callsFrom blanks.getLast? (offset + byteLength blanks) rest := by
  rw [callsFrom_pass (IsGap.not_start gap), IsGap.getLast?_or gap]

theorem declarationsFrom_gap (gap : IsGap blanks) (before : Option Char) (offset : Nat)
    (rest : List Char) :
    declarationsFrom 0 before offset (blanks ++ rest) =
      declarationsFrom 0 blanks.getLast? (offset + byteLength blanks) rest := by
  rw [declarationsFrom_pass (IsGap.not_start gap), IsGap.getLast?_or gap]

theorem plain_of_blank (blank : ∀ c ∈ blanks, isBlank c = true) : ∀ c ∈ blanks, IsPlain c := by
  intro c member
  have first := blank c member
  exact ⟨ne_of_isBlank first (by decide), ne_of_isBlank first (by decide),
    ne_of_isBlank first (by decide)⟩

theorem level?_blanks (blank : ∀ c ∈ blanks, isBlank c = true) (depth : Nat) (rest : List Char) :
    level? depth (blanks ++ rest) = level? depth rest :=
  level?_append_of_plain (plain_of_blank blank) depth rest

theorem outerCommas_blanks (blank : ∀ c ∈ blanks, isBlank c = true) (depth : Nat)
    (rest : List Char) : outerCommas depth (blanks ++ rest) = outerCommas depth rest :=
  outerCommas_append_of_plain (plain_of_blank blank) depth rest

end Gaps

/-- A reader that finds nothing in a text finds nothing in its other layout either, if it finds
something in the text whenever it does in the other layout. -/
theorem eq_none_of_reflected {α : Type} {read read' : Option α}
    (reflected : ∀ found, read' = some found → ∃ old, read = some old) (nothing : read = none) :
    read' = none := by
  cases found : read' with
  | none => rfl
  | some new =>
      obtain ⟨old, back⟩ := reflected new found
      rw [nothing] at back
      cases back

/-! ## Illegal characters -/

theorem illegalFrom_relaid (relaid : Relaid text other)
    (carries : Carries move start text start' other) :
    illegalFrom start' other =
      (illegalFrom start text).map fun (offset, c) => (move offset, c) := by
  induction relaid generalizing start start' with
  | done => rfl
  | @visible c text other visible _ ih =>
      obtain ⟨here, later⟩ := carries.visible visible
      rw [illegalFrom, illegalFrom, ih later]
      cases isLegal c with
      | true => simp
      | false => simp [here]
  | gap gap gap' _ _ ih => rw [illegalFrom_gap gap, illegalFrom_gap gap', ih (carries.gap gap gap')]

/-! ## Calls -/

theorem level?_relaid (relaid : Relaid text other) (depth : Nat) :
    level? depth text = level? depth other := by
  induction relaid generalizing depth with
  | done => rfl
  | @visible c text other _ _ ih =>
      have step (rest : List Char) :
          level? depth (c :: rest) = (level? depth [c]).bind (level? · rest) :=
        level?_append depth [c] rest
      rw [step text, step other]
      simp only [ih]
  | gap gap gap' _ _ ih => rw [level?_blanks gap.blank, level?_blanks gap'.blank, ih]

theorem outerCommas_relaid (relaid : Relaid text other) (depth : Nat) :
    outerCommas depth text = outerCommas depth other := by
  induction relaid generalizing depth with
  | done => rfl
  | visible _ _ ih => simp only [outerCommas, ih]
  | gap gap gap' _ _ ih => rw [outerCommas_blanks gap.blank, outerCommas_blanks gap'.blank, ih]

theorem allBlank_relaid (relaid : Relaid text other) : allBlank text = allBlank other := by
  rw [Bool.eq_iff_iff, allBlank, allBlank, List.all_eq_true, List.all_eq_true]
  exact ⟨relaid.blank, relaid.symm.blank⟩

theorem Call.moved_of_relaid {arguments arguments' : List Char}
    (relaid : Relaid arguments arguments') (placed : move start = start') (name : String) :
    Call.Moved move ⟨name, start, String.ofList arguments⟩
      ⟨name, start', String.ofList arguments'⟩ := by
  have same := allBlank_relaid relaid
  have commas := outerCommas_relaid relaid 0
  constructor
  · rfl
  · exact placed.symm
  · simp [hasArguments, same]
  · simp [argumentCount, hasArguments, same, commas]

theorem wordBoundary_relaid (relaid : Relaid text other)
    (sides : before.any isWord = before'.any isWord) :
    wordBoundary before text.head? = wordBoundary before' other.head? := by
  rw [wordBoundary, wordBoundary, sides, relaid.head?_any fun _ => isWord_of_isBlank]

theorem callHead?_relaid (relaid : Relaid text other)
    (sides : before.any isWord = before'.any isWord) {name arguments : List Char}
    (found : callHead? before text = some (name, arguments)) :
    ∃ arguments', callHead? before' other = some (name, arguments') ∧
      Relaid arguments arguments' := by
  obtain ⟨boundary, identifier, balanced, after, rfl⟩ := callHead?_iff.mp found
  rw [wordBoundary_relaid relaid sides] at boundary
  obtain ⟨_, rfl, afterName⟩ := relaid.word identifier.visible
  obtain ⟨inner', rfl, inside⟩ := afterName.cons (by decide)
  obtain ⟨arguments', after', rfl, related, _⟩ := inside.split (by decide)
  rw [balanced_iff_level?, level?_relaid related, ← balanced_iff_level?] at balanced
  exact ⟨arguments', callHead?_iff.mpr ⟨boundary, identifier, balanced, after', rfl⟩, related⟩

theorem callHead?_relaid_none (relaid : Relaid text other)
    (sides : before.any isWord = before'.any isWord) (nothing : callHead? before text = none) :
    callHead? before' other = none := by
  refine eq_none_of_reflected (fun _ found => ?_) nothing
  obtain ⟨_, back, _⟩ := callHead?_relaid relaid.symm sides.symm found
  exact ⟨_, back⟩

theorem callsFrom_relaid (relaid : Relaid text other)
    (carries : Carries move start text start' other)
    (sides : before.any isWord = before'.any isWord) :
    List.Forall₂ (Call.Moved move) (callsFrom before start text)
      (callsFrom before' start' other) := by
  induction relaid generalizing start start' before before' with
  | done => exact .nil
  | @visible c text other visible related ih =>
      obtain ⟨here, later⟩ := carries.visible visible
      have rest := @ih (some c) (some c) _ _ later rfl
      have whole : Relaid (c :: text) (c :: other) := .visible visible related
      cases found : callHead? before (c :: text) with
      | none =>
          rw [callsFrom_of_none found, callsFrom_of_none (callHead?_relaid_none whole sides found)]
          exact rest
      | some head =>
          obtain ⟨arguments', found', same⟩ := callHead?_relaid whole sides found
          rw [callsFrom, found, callsFrom, found']
          exact .cons (Call.moved_of_relaid same here _) rest
  | gap gap gap' _ _ ih =>
      rw [callsFrom_gap gap, callsFrom_gap gap']
      apply ih (carries.gap gap gap')
      rw [Relaid.getLast?_any_of_gap gap fun _ => isWord_of_isBlank,
        Relaid.getLast?_any_of_gap gap' fun _ => isWord_of_isBlank]

/-! ## Declarations -/

theorem IsParameterList.exists_close {written : List Char} {parameter : Option (List Char)}
    (shape : IsParameterList written parameter) : ∃ inside, written = inside ++ [')'] := by
  cases shape with
  | @empty before inside => exact ⟨before ++ '(' :: inside, by simp⟩
  | @single before inside name after =>
      exact ⟨before ++ '(' :: (inside ++ (name ++ after)), by simp⟩

theorem IsParameterList.relaid {written written' : List Char} {parameter : Option (List Char)}
    (shape : IsParameterList written parameter) (relaid : Relaid written written') :
    IsParameterList written' parameter := by
  cases shape with
  | @empty before inside blankBefore blankInside =>
      obtain ⟨before', _, rfl, first, opened⟩ := relaid.split (by decide)
      obtain ⟨inside', _, rfl, second, closed⟩ := opened.split (by decide)
      rw [closed.eq_nil]
      exact .empty (first.blank blankBefore) (second.blank blankInside)
  | @single before inside name after blankBefore blankInside identifier blankAfter =>
      obtain ⟨c, tail, named, _⟩ := identifier.exists_cons
      obtain ⟨before', _, rfl, first, opened⟩ := relaid.split (by decide)
      obtain ⟨inside', _, rfl, second, named⟩ :=
        opened.split_word (by simp [named]) identifier.visible
      obtain ⟨after', _, rfl, third, closed⟩ := named.split (by decide)
      rw [closed.eq_nil]
      exact .single (first.blank blankBefore) (second.blank blankInside) identifier
        (third.blank blankAfter)

theorem parameterList?_relaid (relaid : Relaid text other) {parameters : ParameterList}
    (found : parameterList? text = some parameters) :
    ∃ parameters' rest rest', parameterList? other = some parameters' ∧
      parameters'.parameter = parameters.parameter ∧
      text = parameters.written ++ rest ∧ other = parameters'.written ++ rest' ∧
      Relaid parameters.written parameters'.written ∧ Relaid rest rest' := by
  obtain ⟨shape, rest, rfl⟩ := parameterList?_eq_some_iff.mp found
  obtain ⟨inside, closed⟩ := shape.exists_close
  have visible : isBlank ')' = false := by decide
  rw [closed, List.append_assoc] at relaid
  obtain ⟨inside', rest', rfl, first, second⟩ := relaid.split visible
  have written : Relaid parameters.written (inside' ++ [')']) := by
    rw [closed]
    exact first.append (.visible visible .done) (by simp [visible])
  have text' : inside' ++ ')' :: rest' = (inside' ++ [')']) ++ rest' := by simp
  refine ⟨⟨inside' ++ [')'], parameters.parameter⟩, rest, rest', ?_, rfl, rfl, text', written,
    second⟩
  rw [text']
  exact parameterList?_append (shape.relaid written) rest'

theorem parameterList?_relaid_none (relaid : Relaid text other)
    (nothing : parameterList? text = none) : parameterList? other = none := by
  refine eq_none_of_reflected (fun _ found => ?_) nothing
  obtain ⟨_, _, _, back, _⟩ := parameterList?_relaid relaid.symm found
  exact ⟨_, back⟩

/-- A heading in another layout. -/
structure Heading.Alike (heading other : Heading) : Prop where
  lead : Relaid heading.lead other.lead
  name : other.name = heading.name
  parameters : other.parameters.map (·.parameter) = heading.parameters.map (·.parameter)
  written : Relaid heading.written other.written

theorem heading?_relaid (relaid : Relaid text other)
    (sides : before.any isWord = before'.any isWord) {heading : Heading}
    (found : heading? before text = some heading) :
    ∃ heading' rest rest', heading? before' other = some heading' ∧ heading.Alike heading' ∧
      text = heading.written ++ rest ∧ other = heading'.written ++ rest' ∧ Relaid rest rest' := by
  obtain ⟨boundary, word, gap, after, member, isGap, lead, identifier, stops, rfl, parameters⟩ :=
    heading?_eq_some_iff.mp found
  rw [wordBoundary_relaid relaid sides] at boundary
  obtain ⟨c, tail, named, part⟩ := identifier.exists_cons
  have wordVisible := (isIdentifier_of_mem_declarators member).visible
  obtain ⟨_, rfl, spaced⟩ := relaid.word wordVisible
  obtain ⟨gap', after', rfl, gaps, afters⟩ :=
    spaced.split_word (by simp [named]) identifier.visible
  have found' : heading? before' (word ++ (gap' ++ (heading.name ++ after'))) =
      some ⟨word ++ gap', heading.name, parameterList? after'⟩ :=
    heading?_eq_some_iff.mpr ⟨boundary, word, gap', after', member, gaps.isGap isGap, rfl,
      identifier, afters.stops (fun _ => isIdentifierPart_of_isBlank) stops, rfl, rfl⟩
  have leads : Relaid heading.lead (word ++ gap') := by
    rw [lead]
    exact gaps.prepend wordVisible
  -- What follows the lead starts with the name, so that it can be joined to the lead.
  have joined {list list' : List Char} (lists : Relaid list list') :
      Relaid (heading.lead ++ heading.name ++ list) (word ++ gap' ++ heading.name ++ list') := by
    rw [List.append_assoc, List.append_assoc (word ++ gap')]
    exact leads.append (lists.prepend identifier.visible)
      (by simp [named, isBlank_of_isIdentifierPart part])
  cases list : parameterList? after with
  | none =>
      have list' := parameterList?_relaid_none afters list
      rw [list'] at found'
      rw [list] at parameters
      refine ⟨_, after, after', found', ⟨leads, rfl, ?_, ?_⟩, ?_, ?_, afters⟩
      · simp [parameters]
      · simpa [Heading.written, parameters] using joined .done
      · simp [Heading.written, parameters, lead]
      · simp [Heading.written]
  | some read =>
      obtain ⟨read', rest, rest', list', same, rfl, rfl, lists, rests⟩ :=
        parameterList?_relaid afters list
      rw [list'] at found'
      rw [list] at parameters
      refine ⟨_, rest, rest', found', ⟨leads, rfl, ?_, ?_⟩, ?_, ?_, rests⟩
      · simp [parameters, same]
      · simpa [Heading.written, parameters] using joined lists
      · simp [Heading.written, parameters, lead]
      · simp [Heading.written]

theorem heading?_relaid_none (relaid : Relaid text other)
    (sides : before.any isWord = before'.any isWord) (nothing : heading? before text = none) :
    heading? before' other = none := by
  refine eq_none_of_reflected (fun _ found => ?_) nothing
  obtain ⟨_, _, _, back, _⟩ := heading?_relaid relaid.symm sides.symm found
  exact ⟨_, back⟩

theorem Heading.Alike.declaration {heading heading' : Heading} (alike : heading.Alike heading')
    (placed : move (start + byteLength heading.lead) = start' + byteLength heading'.lead) :
    heading'.declaration start' = (heading.declaration start).moved move := by
  have parameter : heading'.parameters.bind (·.parameter) =
      heading.parameters.bind (·.parameter) := by
    have joined := congrArg (·.bind id) alike.parameters
    simpa [Option.bind_map, Function.comp_def] using joined
  have parenthesized : heading'.parameters.isSome = heading.parameters.isSome := by
    have present := congrArg Option.isSome alike.parameters
    simpa using present
  simp [Heading.declaration, Declaration.moved, alike.name, parameter, parenthesized, placed]

theorem declarationsFrom_relaid (relaid : Relaid text other)
    (carries : Carries move start text start' other)
    (sides : before.any isWord = before'.any isWord) :
    declarationsFrom 0 before' start' other =
      (declarationsFrom 0 before start text).map (·.moved move) := by
  -- A heading covers many characters, and a gap too, so the induction is on the length.
  induction size : text.length using Nat.strongRecOn
    generalizing text other start start' before before' with
  | ind length ih =>
      cases relaid with
      | done => rfl
      | @gap blanks blanks' text other gap gap' _ related =>
          have shorter : text.length < length := by
            have positive := List.length_pos_of_ne_nil gap.present
            simp only [← size, List.length_append]
            omega
          rw [declarationsFrom_gap gap, declarationsFrom_gap gap']
          apply ih _ shorter related (carries.gap gap gap') _ rfl
          rw [Relaid.getLast?_any_of_gap gap fun _ => isWord_of_isBlank,
            Relaid.getLast?_any_of_gap gap' fun _ => isWord_of_isBlank]
      | @visible c text other visible related =>
          have whole : Relaid (c :: text) (c :: other) := .visible visible related
          cases found : heading? before (c :: text) with
          | none =>
              rw [declarationsFrom_of_none found,
                declarationsFrom_of_none (heading?_relaid_none whole sides found)]
              exact ih text.length (by simp [← size]) related (carries.visible visible).2 rfl rfl
          | some heading =>
              obtain ⟨heading', rest, rest', found', alike, split, split', rests⟩ :=
                heading?_relaid whole sides found
              have shorter : rest.length < length := by
                obtain ⟨d, tail, named, _⟩ := (isIdentifier_of_heading? found).exists_cons
                simp only [← size, split, Heading.written, named, List.length_append,
                  List.length_cons]
                omega
              rw [split, split'] at carries
              rw [split] at found ⊢
              rw [split'] at found' ⊢
              rw [declarationsFrom_heading found, declarationsFrom_heading found', List.map_cons,
                ih rest.length shorter rests (carries.append alike.written)
                  (alike.written.getLast?_any fun _ => isWord_of_isBlank) rfl]
              congr 1
              apply alike.declaration
              obtain ⟨d, tail, named, part⟩ := (isIdentifier_of_heading? found).exists_cons
              simp only [Heading.written, alike.name, named, List.append_assoc] at carries
              exact ((carries.append alike.lead).visible (isBlank_of_isIdentifierPart part)).1

end KarelLint.Source
