import KarelLint.Proofs.Source.CallSites

/-! Which parts of a text are declarations. This is said without a search: where a declaration can
open, of what it consists and how far it reaches, and which of the places where one can open count.
At most one list of sites has all that is asked. -/

set_option autoImplicit false

namespace KarelLint

namespace Text

/-- A place in a text that is after another one is not before the next character. -/
theorem add_utf8Size_le {before before' rest rest' : List Char} {c : Char}
    (same : before ++ c :: rest = before' ++ rest')
    (further : byteLength before < byteLength before') :
    byteLength before + c.utf8Size ≤ byteLength before' := by
  rcases List.append_eq_append_iff.mp same with ⟨between, rfl, split⟩ | ⟨between, rfl, _⟩
  · cases between with
    | nil => simp at further
    | cons d between =>
        cases split
        simp
  · rw [byteLength_append] at further
    omega

theorem byteLength_pos {text : List Char} (present : text ≠ []) : 0 < byteLength text := by
  cases text with
  | nil => exact absurd rfl present
  | cons c text =>
      have positive := c.utf8Size_pos
      rw [byteLength_cons]
      omega

theorem IsIdentifier.exists_start {name : List Char} (identifier : IsIdentifier name)
    (rest : List Char) : ∃ c ∈ (name ++ rest).head?, isIdentifierStart c = true := by
  cases name with
  | nil => cases identifier
  | cons c tail => exact ⟨c, rfl, identifier.1⟩

end Text

namespace Source

open Text

/-- A declaration with the offsets between which it stands. -/
structure Site where
  start : Nat
  stop : Nat
  declaration : Declaration
  deriving DecidableEq, Repr

/-- After the text `before`, a word starts that is a declarator, with white space and the start of
an identifier after it. -/
structure Opening (text before word gap rest : List Char) : Prop where
  split : text = before ++ (word ++ (gap ++ rest))
  boundary : wordBoundary before.getLast? (word ++ (gap ++ rest)).head? = true
  declarator : String.ofList word ∈ declarators
  gap : IsGap gap
  identifier : ∃ c ∈ rest.head?, isIdentifierStart c = true

def Opens (text : List Char) (offset : Nat) : Prop :=
  ∃ before word gap rest, Opening text before word gap rest ∧ byteLength before = offset

/-- What belongs to a declaration after its name, before the text `after`: a parameter list where
one is written, and nothing otherwise. -/
inductive Completed : List Char → List Char → Option (List Char) → Bool → Prop where
  | list {list after : List Char} {parameter : Option (List Char)} :
      IsParameterList list parameter → Completed list after parameter true
  | bare {after : List Char} :
      (∀ list parameter rest, IsParameterList list parameter → after ≠ list ++ rest) →
      Completed [] after none false

/-- A declaration stands at a site. Its name is as long as it can be. -/
def Declares (text : List Char) (site : Site) : Prop :=
  ∃ before word gap name list after parameter parenthesized,
    Opening text before word gap (name ++ (list ++ after)) ∧ IsIdentifier name ∧
    (∀ c ∈ (list ++ after).head?, isIdentifierPart c = false) ∧
    Completed list after parameter parenthesized ∧
    site = {
      start := byteLength before
      stop := byteLength (before ++ (word ++ (gap ++ (name ++ list))))
      declaration := {
        name := String.ofList name
        offset := byteLength (before ++ (word ++ gap))
        parameter := parameter.map String.ofList
        parenthesized } }

/-- The sites of the declarations of a text from an offset on. They do not overlap, and a
declaration can only open at one of them or inside one. -/
structure Recognised (text : List Char) (offset : Nat) (sites : List Site) : Prop where
  declares : ∀ site ∈ sites, Declares text site
  after : ∀ site ∈ sites, offset ≤ site.start
  ordered : sites.Pairwise fun earlier later => earlier.stop ≤ later.start
  complete : ∀ start, offset ≤ start → Opens text start →
    ∃ site ∈ sites, site.start = start ∨ (site.start < start ∧ start < site.stop)

/-! ## Sites and headings -/

def Heading.site (heading : Heading) (offset : Nat) : Site where
  start := offset
  stop := offset + byteLength heading.written
  declaration := heading.declaration offset

theorem Completed.parameterList? {list after : List Char} {parameter : Option (List Char)}
    {parenthesized : Bool} (completed : Completed list after parameter parenthesized) :
    ∃ parameters, parameterList? (list ++ after) = parameters ∧
      list = (parameters.map (·.written)).getD [] ∧ parameter = parameters.bind (·.parameter) ∧
      parenthesized = parameters.isSome := by
  cases completed with
  | list shape =>
      exact ⟨_, parameterList?_append shape after, rfl, rfl, rfl⟩
  | bare missing =>
      refine ⟨none, ?_, rfl, rfl, rfl⟩
      cases found : Source.parameterList? after with
      | none => rw [List.nil_append, found]
      | some parameters =>
          obtain ⟨shape, rest, split⟩ := isParameterList_of_parameterList? found
          exact absurd split (missing _ _ rest shape)

theorem exists_completed (rest : List Char) :
    ∃ after, rest = ((parameterList? rest).map (·.written)).getD [] ++ after ∧
      Completed (((parameterList? rest).map (·.written)).getD []) after
        ((parameterList? rest).bind (·.parameter)) (parameterList? rest).isSome := by
  cases found : parameterList? rest with
  | none =>
      refine ⟨rest, rfl, .bare ?_⟩
      intro list parameter after shape split
      rw [split, parameterList?_append shape] at found
      cases found
  | some parameters =>
      obtain ⟨shape, after, split⟩ := isParameterList_of_parameterList? found
      exact ⟨after, split, .list shape⟩

section Headings

variable {before after : List Char} {heading : Heading}

theorem declares_of_heading? (found : heading? before.getLast? after = some heading) :
    Declares (before ++ after) (heading.site (byteLength before)) := by
  obtain ⟨boundary, word, gap, rest, declarator, isGap, lead, identifier, stops, rfl, parameters⟩ :=
    heading?_eq_some_iff.mp found
  obtain ⟨after, split, completed⟩ := exists_completed rest
  rw [← parameters] at split completed
  rw [split] at boundary stops ⊢
  refine ⟨before, word, gap, heading.name, _, after, _, _,
    ⟨rfl, boundary, declarator, isGap, identifier.exists_start _⟩, identifier, stops,
    completed, ?_⟩
  simp [Heading.site, Heading.written, Heading.declaration, lead]

theorem exists_heading {before : Option Char} {word gap rest : List Char}
    (boundary : wordBoundary before (word ++ (gap ++ rest)).head? = true)
    (declarator : String.ofList word ∈ declarators) (isGap : IsGap gap)
    (identifier : ∃ c ∈ rest.head?, isIdentifierStart c = true) :
    ∃ heading, heading? before (word ++ (gap ++ rest)) = some heading := by
  obtain ⟨c, first, start⟩ := identifier
  cases rest with
  | nil => cases first
  | cons d rest =>
      cases first
      have named : identifier? (c :: rest) = some (_, _) := if_pos start
      obtain ⟨identifier, split, stops⟩ := identifier?_eq_some_iff.mp named
      exact ⟨⟨word ++ gap, _, _⟩, heading?_eq_some_iff.mpr ⟨boundary, word, gap, _, declarator,
        isGap, rfl, identifier, stops, by rw [← split], rfl⟩⟩

theorem exists_heading_of_opens (opens : Opens (before ++ after) (byteLength before)) :
    ∃ heading, heading? before.getLast? after = some heading := by
  obtain ⟨before', word, gap, rest, opening, same⟩ := opens
  obtain ⟨rfl, rfl⟩ := append_inj_of_byteLength opening.split same.symm
  exact exists_heading opening.boundary opening.declarator opening.gap opening.identifier

theorem Declares.opens {text : List Char} {site : Site} (declares : Declares text site) :
    Opens text site.start := by
  obtain ⟨before, word, gap, name, list, after, _, _, opening, _, _, _, rfl⟩ := declares
  exact ⟨before, word, gap, _, opening, rfl⟩

theorem Declares.exists_heading {text : List Char} {site : Site} (declares : Declares text site) :
    ∃ before after heading, text = before ++ after ∧
      heading? before.getLast? after = some heading ∧
      site = heading.site (byteLength before) := by
  obtain ⟨before, word, gap, name, list, after, parameter, parenthesized, opening, identifier,
    stops, completed, rfl⟩ := declares
  obtain ⟨parameters, found, rfl, rfl, rfl⟩ := completed.parameterList?
  refine ⟨before, _, ⟨word ++ gap, name, parameters⟩, opening.split, ?_, ?_⟩
  · exact heading?_eq_some_iff.mpr ⟨opening.boundary, word, gap, _, opening.declarator,
      opening.gap, rfl, identifier, stops, rfl, found.symm⟩
  · simp [Heading.site, Heading.written, Heading.declaration]

theorem written_ne_nil {before : Option Char} {text : List Char}
    (found : heading? before text = some heading) : heading.written ≠ [] := by
  obtain ⟨_, word, gap, _, _, isGap, lead, _⟩ := heading?_eq_some_iff.mp found
  simp [Heading.written, lead, isGap.present]

theorem Declares.start_lt_stop {text : List Char} {site : Site}
    (declares : Declares text site) : site.start < site.stop := by
  obtain ⟨before, after, heading, _, found, rfl⟩ := declares.exists_heading
  have positive := byteLength_pos (written_ne_nil found)
  simp [Heading.site]
  omega

/-- At most one declaration stands at an offset. -/
theorem Declares.eq_of_start {text : List Char} {site other : Site}
    (declares : Declares text site) (declares' : Declares text other)
    (same : site.start = other.start) : site = other := by
  obtain ⟨before, after, heading, rfl, found, rfl⟩ := declares.exists_heading
  obtain ⟨before', after', heading', split, found', rfl⟩ := declares'.exists_heading
  obtain ⟨rfl, rfl⟩ := append_inj_of_byteLength split same
  cases found.symm.trans found'
  rfl

end Headings

/-! ## There is at most one list of sites -/

namespace Recognised

variable {text : List Char} {offset : Nat} {sites others : List Site}

/-- Two sites of one list are the same or one ends before the other starts. -/
theorem apart (recognised : Recognised text offset sites) {site other : Site}
    (member : site ∈ sites) (member' : other ∈ sites) :
    site = other ∨ site.stop ≤ other.start ∨ other.stop ≤ site.start := by
  have ordered := recognised.ordered
  clear recognised
  induction sites with
  | nil => cases member
  | cons first sites ih =>
      obtain ⟨ahead, ordered⟩ := List.pairwise_cons.mp ordered
      rcases List.mem_cons.mp member with rfl | later
      · rcases List.mem_cons.mp member' with rfl | later'
        · exact .inl rfl
        · exact .inr (.inl (ahead other later'))
      · rcases List.mem_cons.mp member' with rfl | later'
        · exact .inr (.inr (ahead site later))
        · exact ih later later' ordered

theorem mem_of_mem (recognised : Recognised text offset sites)
    (recognised' : Recognised text offset others) {site : Site} (member : site ∈ sites) :
    site ∈ others := by
  -- A site of one list could only be covered in the other by one that starts earlier, so the
  -- induction is on the start, for both lists at once.
  induction start : site.start using Nat.strongRecOn generalizing site sites others with
  | ind k ih =>
      subst start
      have declares := recognised.declares site member
      obtain ⟨other, member', covers⟩ :=
        recognised'.complete site.start (recognised.after site member) declares.opens
      have declares' := recognised'.declares other member'
      rcases covers with same | ⟨earlier, inside⟩
      · rwa [declares.eq_of_start declares' same.symm]
      · have found := ih other.start earlier recognised' recognised member' rfl
        have positive := declares.start_lt_stop
        rcases recognised.apart member found with rfl | before | after
        · omega
        · omega
        · omega

theorem ascending (recognised : Recognised text offset sites) :
    sites.Pairwise fun earlier later => earlier.start < later.start := by
  refine List.Pairwise.imp_of_mem ?_ recognised.ordered
  intro earlier later member _ ends
  exact Nat.lt_of_lt_of_le (recognised.declares earlier member).start_lt_stop ends

theorem unique (recognised : Recognised text offset sites)
    (recognised' : Recognised text offset others) : sites = others :=
  eq_of_ascending recognised.ascending recognised'.ascending fun _ =>
    ⟨recognised.mem_of_mem recognised', recognised'.mem_of_mem recognised⟩

/-! ## One step of a search for sites -/

theorem done (text : List Char) : Recognised text (byteLength text) [] where
  declares := by simp
  after := by simp
  ordered := .nil
  complete := by
    intro start further opens
    obtain ⟨before, word, gap, rest, opening, rfl⟩ := opens
    have positive := byteLength_pos opening.gap.present
    simp [opening.split] at further
    omega

theorem pass {before rest : List Char} {c : Char}
    (nothing : heading? before.getLast? (c :: rest) = none)
    (later : Recognised (before ++ c :: rest) (byteLength before + c.utf8Size) sites) :
    Recognised (before ++ c :: rest) (byteLength before) sites where
  declares := later.declares
  after := fun site member => Nat.le_trans (Nat.le_add_right _ _) (later.after site member)
  ordered := later.ordered
  complete := by
    intro start further opens
    rcases Nat.eq_or_lt_of_le further with rfl | beyond
    · obtain ⟨heading, found⟩ := exists_heading_of_opens opens
      rw [nothing] at found
      cases found
    · obtain ⟨front, word, gap, tail, opening, rfl⟩ := opens
      exact later.complete _ (add_utf8Size_le opening.split beyond)
        ⟨front, word, gap, tail, opening, rfl⟩

theorem heading {before after : List Char} {heading : Heading}
    (found : heading? before.getLast? after = some heading)
    (later : Recognised (before ++ after) (byteLength before + byteLength heading.written) sites) :
    Recognised (before ++ after) (byteLength before)
      (heading.site (byteLength before) :: sites) where
  declares := List.forall_mem_cons.mpr ⟨declares_of_heading? found, later.declares⟩
  after := List.forall_mem_cons.mpr ⟨Nat.le_refl _, fun site member =>
    Nat.le_trans (Nat.le_add_right _ _) (later.after site member)⟩
  ordered := .cons later.after later.ordered
  complete := by
    intro start further opens
    rcases Nat.lt_or_ge start (byteLength before + byteLength heading.written) with within | beyond
    · refine ⟨_, List.mem_cons_self, ?_⟩
      rcases Nat.eq_or_lt_of_le further with same | inside
      · exact .inl same
      · exact .inr ⟨inside, within⟩
    · obtain ⟨site, member, covers⟩ := later.complete start beyond opens
      exact ⟨site, List.mem_cons_of_mem _ member, covers⟩

end Recognised

end Source

end KarelLint
