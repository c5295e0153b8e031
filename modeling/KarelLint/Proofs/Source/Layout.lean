import KarelLint.Proofs.Source.Findings

/-! Texts that differ in their layout only. White space takes part in no name, no parenthesis and
no word, so two such texts are read alike: the searches find the same things in both, at positions
that correspond. -/

set_option autoImplicit false

namespace KarelLint

/-! ## Layout -/

namespace Text

/-- A text in another layout. Each run of white space, taken as long as it goes, is replaced by
some run of white space, and everything else is kept. -/
inductive Relaid : List Char → List Char → Prop where
  | done : Relaid [] []
  | visible {c : Char} {text other : List Char} : isBlank c = false → Relaid text other →
      Relaid (c :: text) (c :: other)
  | gap {blanks blanks' text other : List Char} : IsGap blanks → IsGap blanks' →
      (∀ c ∈ text.head?, isBlank c = false) → Relaid text other →
      Relaid (blanks ++ text) (blanks' ++ other)

/-- A text with one space for each run of white space. -/
def squeeze : List Char → List Char
  | [] => []
  | c :: rest =>
      if isBlank c then
        if rest.head?.any isBlank then squeeze rest else ' ' :: squeeze rest
      else c :: squeeze rest

theorem squeeze_visible {c : Char} (visible : isBlank c = false) (rest : List Char) :
    squeeze (c :: rest) = c :: squeeze rest := by
  simp [squeeze, visible]

theorem squeeze_gap {blanks rest : List Char} (gap : IsGap blanks)
    (visible : ∀ c ∈ rest.head?, isBlank c = false) :
    squeeze (blanks ++ rest) = ' ' :: squeeze rest := by
  obtain ⟨present, blank⟩ := gap
  induction blanks with
  | nil => exact absurd rfl present
  | cons c blanks ih =>
      have first : isBlank c = true := blank c List.mem_cons_self
      cases blanks with
      | nil =>
          have stops : rest.head?.any isBlank = false := by
            cases rest with
            | nil => rfl
            | cons d rest => simpa using visible d rfl
          simp [squeeze, first, stops]
      | cons d blanks =>
          have second : isBlank d = true := blank d (by simp)
          have shorter := ih (by simp) fun e member => blank e (List.mem_cons_of_mem _ member)
          simp only [List.cons_append] at shorter
          rw [List.cons_append, List.cons_append, squeeze, if_pos first, ← shorter]
          simp [second]

theorem Relaid.starts_visible {text other : List Char} (relaid : Relaid text other)
    (visible : ∀ c ∈ text.head?, isBlank c = false) : ∀ c ∈ other.head?, isBlank c = false := by
  cases relaid with
  | done => exact visible
  | visible _ _ => exact visible
  | gap gap _ _ _ =>
      obtain ⟨c, tail, rfl⟩ := List.exists_cons_of_ne_nil gap.present
      have clash := visible c rfl
      rw [gap.blank c List.mem_cons_self] at clash
      cases clash

theorem Relaid.squeeze_eq {text other : List Char} (relaid : Relaid text other) :
    squeeze text = squeeze other := by
  induction relaid with
  | done => rfl
  | visible visible _ ih => rw [squeeze_visible visible, squeeze_visible visible, ih]
  | gap left right stops related ih =>
      rw [squeeze_gap left stops, squeeze_gap right (related.starts_visible stops), ih]

/-- A text is empty, or starts with a visible character, or with a run of white space. -/
theorem squeeze_cases (text : List Char) :
    (text = [] ∧ squeeze text = []) ∨
    (∃ c rest, text = c :: rest ∧ isBlank c = false ∧ squeeze text = c :: squeeze rest) ∨
    (∃ blanks rest, text = blanks ++ rest ∧ IsGap blanks ∧
      (∀ c ∈ rest.head?, isBlank c = false) ∧ squeeze text = ' ' :: squeeze rest) := by
  obtain ⟨blanks, rest, rfl, blank, visible⟩ := exists_run isBlank text
  cases blanks with
  | cons c blanks =>
      have gap : IsGap (c :: blanks) := ⟨by simp, blank⟩
      exact .inr (.inr ⟨_, rest, rfl, gap, visible, squeeze_gap gap visible⟩)
  | nil =>
      cases rest with
      | nil => exact .inl ⟨rfl, rfl⟩
      | cons c rest =>
          have first := visible c rfl
          exact .inr (.inl ⟨c, rest, rfl, first, squeeze_visible first rest⟩)

theorem relaid_of_squeeze {text other : List Char} (same : squeeze text = squeeze other) :
    Relaid text other := by
  have space : isBlank ' ' = true := by decide
  induction size : text.length using Nat.strongRecOn generalizing text other with
  | ind length ih =>
      rcases squeeze_cases text with ⟨empty, left⟩ | ⟨c, rest, rfl, visible, left⟩ |
          ⟨blanks, rest, rfl, gap, stops, left⟩ <;>
        rcases squeeze_cases other with ⟨empty', right⟩ | ⟨d, rest', rfl, visible', right⟩ |
          ⟨blanks', rest', rfl, gap', stops', right⟩ <;>
        rw [left, right] at same
      case inl.inl =>
        rw [empty, empty']
        exact .done
      case inr.inl.inr.inl =>
        obtain ⟨rfl, rests⟩ := List.cons.inj same
        exact .visible visible (ih rest.length (by simp [← size]) rests rfl)
      case inr.inr.inr.inr =>
        have shorter : rest.length < length := by
          have positive := List.length_pos_of_ne_nil gap.present
          simp only [← size, List.length_append]
          omega
        exact .gap gap gap' stops (ih rest.length shorter (List.cons.inj same).2 rfl)
      -- A visible character is not the space that stands for a run.
      case inr.inl.inr.inr =>
        rw [(List.cons.inj same).1, space] at visible
        cases visible
      case inr.inr.inr.inl =>
        rw [← (List.cons.inj same).1, space] at visible'
        cases visible'
      all_goals cases same

theorem relaid_iff_squeeze {text other : List Char} :
    Relaid text other ↔ squeeze text = squeeze other :=
  ⟨Relaid.squeeze_eq, relaid_of_squeeze⟩

instance (text other : List Char) : Decidable (Relaid text other) :=
  decidable_of_iff (squeeze text = squeeze other) relaid_iff_squeeze.symm

/-! ## What white space is not -/

/-- The code points of some intervals. -/
def points (intervals : List Interval) : List Nat :=
  intervals.flatMap fun interval => List.range' interval.first (interval.last + 1 - interval.first)

theorem mem_points_of_covers {intervals : List Interval} {point : Nat}
    (covered : covers intervals point = true) : point ∈ points intervals := by
  induction intervals with
  | nil => cases covered
  | cons interval later ih =>
      simp only [points, List.flatMap_cons, List.mem_append, List.mem_range'_1]
      rw [covers] at covered
      split at covered
      · cases covered
      · split at covered
        · left
          omega
        · exact .inr (ih covered)

theorem isWord_of_isBlank {c : Char} (blank : isBlank c = true) : isWord c = false := by
  have all : ((points blankIntervals).all fun point => !covers wordIntervals point) = true := by
    decide +kernel
  simpa [isWord] using List.all_eq_true.mp all _ (mem_points_of_covers blank)

theorem isIdentifierPart_of_isBlank {c : Char} (blank : isBlank c = true) :
    isIdentifierPart c = false :=
  isIdentifierPart_of_not_isWord (isWord_of_isBlank blank)

theorem isIdentifierStart_of_isBlank {c : Char} (blank : isBlank c = true) :
    isIdentifierStart c = false :=
  isIdentifierStart_of_not_isWord (isWord_of_isBlank blank)

theorem ne_of_isBlank {c d : Char} (blank : isBlank c = true) (visible : isBlank d = false) :
    c ≠ d := by
  rintro rfl
  rw [blank] at visible
  cases visible

/-! ## Parts of a text in another layout -/

namespace Relaid

theorem symm {text other : List Char} (relaid : Relaid text other) : Relaid other text :=
  relaid_iff_squeeze.mpr (relaid_iff_squeeze.mp relaid).symm

theorem cons {c : Char} {rest other : List Char} (relaid : Relaid (c :: rest) other)
    (visible : isBlank c = false) : ∃ rest', other = c :: rest' ∧ Relaid rest rest' := by
  generalize split : c :: rest = text at relaid
  cases relaid with
  | done => cases split
  | @visible d _ other' _ related =>
      obtain ⟨rfl, rfl⟩ := List.cons.inj split
      exact ⟨other', rfl, related⟩
  | @gap blanks _ _ _ gap _ _ _ =>
      obtain ⟨d, tail, rfl⟩ := List.exists_cons_of_ne_nil gap.present
      obtain ⟨rfl, _⟩ := List.cons.inj split
      exact absurd rfl (ne_of_isBlank (gap.blank _ List.mem_cons_self) visible)

/-- Visible characters are kept as they are. -/
theorem word {word rest other : List Char} (relaid : Relaid (word ++ rest) other)
    (visible : ∀ c ∈ word, isBlank c = false) :
    ∃ rest', other = word ++ rest' ∧ Relaid rest rest' := by
  induction word generalizing other with
  | nil => exact ⟨other, rfl, relaid⟩
  | cons c word ih =>
      obtain ⟨tail, rfl, related⟩ := relaid.cons (visible c List.mem_cons_self)
      obtain ⟨rest', rfl, later⟩ :=
        ih related fun d member => visible d (List.mem_cons_of_mem _ member)
      exact ⟨rest', rfl, later⟩

/-- A text in another layout falls into parts where the text does, at a visible character. -/
theorem split {left right other : List Char} {c : Char} (relaid : Relaid (left ++ c :: right) other)
    (visible : isBlank c = false) :
    ∃ left' right', other = left' ++ c :: right' ∧ Relaid left left' ∧ Relaid right right' := by
  generalize whole : left ++ c :: right = text at relaid
  induction relaid generalizing left with
  | done => simp at whole
  | @visible d text other first related ih =>
      cases left with
      | nil =>
          obtain ⟨rfl, rfl⟩ := List.cons.inj whole
          exact ⟨[], other, rfl, .done, related⟩
      | cons e left =>
          obtain ⟨rfl, remaining⟩ := List.cons.inj whole
          obtain ⟨left', right', rfl, before, after⟩ := ih remaining
          exact ⟨e :: left', right', rfl, .visible first before, after⟩
  | @gap blanks blanks' text other gap gap' stops _ ih =>
      -- The character is not in the run of white space, so all of the run is before it.
      obtain ⟨later, rfl, remaining⟩ : ∃ later, left = blanks ++ later ∧
          later ++ c :: right = text := by
        rcases List.append_eq_append_iff.mp whole with ⟨more, rfl, tail⟩ | ⟨more, rfl, rfl⟩
        · cases more with
          | nil => exact ⟨[], by simp, by simpa using tail⟩
          | cons d more =>
              obtain ⟨rfl, _⟩ := List.cons.inj tail
              exact absurd rfl (ne_of_isBlank (gap.blank c (by simp)) visible)
        · exact ⟨more, rfl, rfl⟩
      obtain ⟨left', right', rfl, before, after⟩ := ih remaining
      refine ⟨blanks' ++ left', right', by simp, .gap gap gap' ?_ before, after⟩
      intro d first
      apply stops d
      cases later with
      | nil => cases first
      | cons e later => simpa [← remaining] using first

theorem blank {text other : List Char} (relaid : Relaid text other)
    (blank : ∀ c ∈ text, isBlank c = true) : ∀ c ∈ other, isBlank c = true := by
  induction relaid with
  | done => simp
  | @visible c _ _ visible _ _ =>
      exact absurd rfl (ne_of_isBlank (blank c List.mem_cons_self) visible)
  | gap _ gap' _ _ ih =>
      intro c member
      rcases List.mem_append.mp member with inGap | later
      · exact gap'.blank c inGap
      · exact ih (fun d old => blank d (List.mem_append_right _ old)) c later

theorem eq_nil {other : List Char} (relaid : Relaid [] other) : other = [] := by
  generalize empty : [] = text at relaid
  cases relaid with
  | done => rfl
  | visible _ _ => cases empty
  | gap gap _ _ _ => simp [gap.present] at empty

theorem isGap {text other : List Char} (relaid : Relaid text other) (gap : IsGap text) :
    IsGap other := by
  refine ⟨?_, relaid.blank gap.blank⟩
  rintro rfl
  exact gap.present relaid.symm.eq_nil

section Ends

variable {text other : List Char} {holds : Char → Bool}

/-- The first characters are of one kind, if white space is not of that kind. -/
theorem head?_any (relaid : Relaid text other)
    (blanks : ∀ c, isBlank c = true → holds c = false) :
    text.head?.any holds = other.head?.any holds := by
  cases relaid with
  | done => rfl
  | visible _ _ => rfl
  | gap gap gap' _ _ =>
      obtain ⟨c, tail, rfl⟩ := List.exists_cons_of_ne_nil gap.present
      obtain ⟨d, tail', rfl⟩ := List.exists_cons_of_ne_nil gap'.present
      simp [blanks c (gap.blank c List.mem_cons_self), blanks d (gap'.blank d List.mem_cons_self)]

theorem stops (relaid : Relaid text other) (blanks : ∀ c, isBlank c = true → holds c = false)
    (ends : ∀ c ∈ text.head?, holds c = false) : ∀ c ∈ other.head?, holds c = false := by
  intro c first
  have same := relaid.head?_any blanks
  rw [Option.mem_def.mp first] at same
  cases text with
  | nil => simpa using same.symm
  | cons d text => simpa [ends d rfl] using same.symm

theorem getLast?_any_of_gap {blanks : List Char} (gap : IsGap blanks)
    (never : ∀ c, isBlank c = true → holds c = false) : blanks.getLast?.any holds = false := by
  obtain ⟨c, last⟩ : ∃ c, blanks.getLast? = some c :=
    Option.ne_none_iff_exists'.mp (by simp [gap.present])
  simp [last, never c (gap.blank c (List.mem_of_getLast? last))]

theorem getLast?_any (relaid : Relaid text other)
    (blanks : ∀ c, isBlank c = true → holds c = false) :
    text.getLast?.any holds = other.getLast?.any holds := by
  induction relaid with
  | done => rfl
  | @visible c text other _ related ih =>
      cases text with
      | nil => rw [related.eq_nil]
      | cons d text =>
          obtain ⟨e, other, rfl⟩ : ∃ e rest, other = e :: rest := by
            apply List.exists_cons_of_ne_nil
            rintro rfl
            cases related.symm.eq_nil
          rw [List.getLast?_cons_cons, List.getLast?_cons_cons, ih]
  | @gap first second text other gap gap' _ related ih =>
      cases last : text.getLast? with
      | none =>
          have empty : text = [] := List.getLast?_eq_none_iff.mp last
          subst empty
          rw [related.eq_nil, List.append_nil, List.append_nil,
            getLast?_any_of_gap gap blanks, getLast?_any_of_gap gap' blanks]
      | some c =>
          obtain ⟨d, last'⟩ : ∃ d, other.getLast? = some d := by
            apply Option.ne_none_iff_exists'.mp
            intro none
            rw [List.getLast?_eq_none_iff.mp none] at related
            rw [related.symm.eq_nil] at last
            cases last
          rw [last, last'] at ih
          simpa [List.getLast?_append, last, last'] using ih

end Ends

section Joining

variable {left left' right right' other : List Char}

theorem prepend {word : List Char} (visible : ∀ c ∈ word, isBlank c = false)
    (relaid : Relaid right right') : Relaid (word ++ right) (word ++ right') := by
  induction word with
  | nil => exact relaid
  | cons c word ih =>
      exact .visible (visible c List.mem_cons_self)
        (ih fun d member => visible d (List.mem_cons_of_mem _ member))

theorem append (first : Relaid left left') (second : Relaid right right')
    (stops : ∀ c ∈ right.head?, isBlank c = false) : Relaid (left ++ right) (left' ++ right') := by
  induction first with
  | done => exact second
  | visible visible _ ih => exact .visible visible ih
  | @gap blanks blanks' text other gap gap' ends _ ih =>
      rw [List.append_assoc, List.append_assoc]
      refine .gap gap gap' ?_ ih
      intro c head
      cases text with
      | nil => exact stops c head
      | cons d text => exact ends c head

/-- A visible word divides a text in another layout as it divides the text. -/
theorem split_word {word : List Char} (relaid : Relaid (left ++ (word ++ right)) other)
    (present : word ≠ []) (visible : ∀ c ∈ word, isBlank c = false) :
    ∃ left' right', other = left' ++ (word ++ right') ∧ Relaid left left' ∧
      Relaid right right' := by
  obtain ⟨c, tail, rfl⟩ := List.exists_cons_of_ne_nil present
  obtain ⟨before, after, rfl, first, rest⟩ := relaid.split (visible c List.mem_cons_self)
  obtain ⟨last, rfl, second⟩ := rest.word fun d member => visible d (List.mem_cons_of_mem _ member)
  exact ⟨before, last, rfl, first, second⟩

end Joining

end Relaid

/-! ## Corresponding positions -/

/-- A map of positions that takes each visible character of a text, which starts at `start`, to
the one that has its place in another text, which starts at `start'`. -/
def Carries (move : Nat → Nat) (start : Nat) (text : List Char) (start' : Nat)
    (other : List Char) : Prop :=
  (visibleFrom start text).map move = visibleFrom start' other

theorem Relaid.length_visibleFrom {text other : List Char} (relaid : Relaid text other)
    (start start' : Nat) :
    (visibleFrom start text).length = (visibleFrom start' other).length := by
  induction relaid generalizing start start' with
  | done => rfl
  | visible visible _ ih => simpa [visible] using ih _ _
  | gap blank blank' _ _ ih =>
      simpa [visibleFrom_append, visibleFrom_eq_nil blank.blank,
        visibleFrom_eq_nil blank'.blank] using ih _ _

namespace Carries

variable {move : Nat → Nat} {start start' : Nat} {text other : List Char}

theorem visible {c : Char} (visible : isBlank c = false)
    (carries : Carries move start (c :: text) start' (c :: other)) :
    move start = start' ∧
      Carries move (start + c.utf8Size) text (start' + c.utf8Size) other := by
  simpa [Carries, visible] using carries

theorem gap {blanks blanks' : List Char} (blank : IsGap blanks) (blank' : IsGap blanks')
    (carries : Carries move start (blanks ++ text) start' (blanks' ++ other)) :
    Carries move (start + byteLength blanks) text (start' + byteLength blanks') other := by
  simpa [Carries, visibleFrom_append, visibleFrom_eq_nil blank.blank,
    visibleFrom_eq_nil blank'.blank] using carries

theorem append {left left' : List Char} (relaid : Relaid left left')
    (carries : Carries move start (left ++ text) start' (left' ++ other)) :
    Carries move (start + byteLength left) text (start' + byteLength left') other := by
  rw [Carries, visibleFrom_append, visibleFrom_append, List.map_append] at carries
  refine (List.append_inj carries ?_).2
  rw [List.length_map, relaid.length_visibleFrom start start']

end Carries

end Text

end KarelLint
