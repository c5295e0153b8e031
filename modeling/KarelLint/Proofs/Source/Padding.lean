import KarelLint.Proofs.Source.LayoutSearch

/-! Marks before and after a text. No word reaches into them, so before a text they only move what is
found in it, and after it they change nothing as long as they close no parenthesis. -/

set_option autoImplicit false

namespace KarelLint

namespace Text

/-- The positions of a text that starts further on are further on by the same distance. -/
theorem carries_shift (shift start : Nat) (text : List Char) :
    Carries (· + shift) start text (start + shift) text := by
  unfold Carries
  induction text generalizing start with
  | nil => rfl
  | cons c rest ih =>
      have later := ih (start + c.utf8Size)
      rw [Nat.add_right_comm] at later
      cases visible : isBlank c with
      | true => simpa [visible] using later
      | false => simpa [visible] using later

theorem Relaid.refl (text : List Char) : Relaid text text :=
  relaid_iff_squeeze.mpr rfl

/-- A character that does not occur in the second part of a text divides the first part. -/
theorem exists_split_of_not_mem {left right inside rest : List Char} {c : Char}
    (split : left ++ right = inside ++ c :: rest) (absent : c ∉ right) :
    ∃ more, left = inside ++ c :: more ∧ rest = more ++ right := by
  rcases List.append_eq_append_iff.mp split with ⟨more, _, tail⟩ | ⟨more, whole, tail⟩
  · exact absurd (by simp [tail]) absent
  · cases more with
    | nil =>
        rw [List.nil_append] at tail
        exact absurd (tail ▸ List.mem_cons_self) absent
    | cons d more =>
        obtain ⟨rfl, remaining⟩ := List.cons.inj tail
        exact ⟨more, whole, remaining⟩

/-- What follows a text is not the continuation of a run that the text stops. -/
theorem head?_append_stops {holds : Char → Bool} {left right : List Char}
    (first : ∀ c ∈ left.head?, holds c = false) (second : ∀ c ∈ right.head?, holds c = false) :
    ∀ c ∈ (left ++ right).head?, holds c = false := by
  cases left with
  | nil => exact second
  | cons d left => exact first

theorem head?_stops_of_append {holds : Char → Bool} {left right : List Char}
    (whole : ∀ c ∈ (left ++ right).head?, holds c = false) :
    ∀ c ∈ left.head?, holds c = false := by
  cases left with
  | nil => simp
  | cons d left => exact whole

end Text

namespace Source

open Text

theorem not_start_of_marks {marks : List Char} (all : ∀ c ∈ marks, IsMark c) :
    ∀ c ∈ marks, isIdentifierStart c = false :=
  fun c member => isIdentifierStart_of_not_isWord (all c member).ends

/-- The symbols that are marks. -/
def markSymbols : List Char :=
  [';', '(', ')', '/', '*', '&', '!', '|', '\x7b', '\x7d']

/-- The marks are white space, the byte order mark and the symbols other than the low line. -/
theorem isMark_iff {c : Char} :
    IsMark c ↔ isBlank c = true ∨ c = '\uFEFF' ∨ c ∈ markSymbols := by
  constructor
  · intro mark
    have part := isIdentifierPart_of_not_isWord mark.ends
    rw [isIdentifierPart, Bool.or_eq_false_iff] at part
    have legal := mark.legal
    rw [isLegal, part.1, Bool.false_or, Bool.or_eq_true, Bool.or_eq_true] at legal
    rcases legal with (blank | order) | symbol
    · exact .inl blank
    · exact .inr (.inl (beq_iff_eq.mp order))
    · have listed : (symbols.all fun d => d == '_' || markSymbols.contains d) = true := by
        decide
      have either := List.all_eq_true.mp listed c (List.contains_iff_mem.mp symbol)
      rw [part.2, Bool.false_or] at either
      exact .inr (.inr (List.contains_iff_mem.mp either))
  · intro listed
    rcases listed with blank | rfl | symbol
    · exact ⟨by simp [isLegal, blank], isWord_of_isBlank blank⟩
    · decide +kernel
    · have all : (markSymbols.all fun d => decide (IsMark d)) = true := by decide
      exact of_decide_eq_true (List.all_eq_true.mp all c symbol)

/-! ## Marks before a text -/

section Front

variable {front : List Char} (marks : ∀ c ∈ front, IsMark c)

include marks

theorem getLast?_any_of_marks : (front.getLast?.or none).any isWord = false := by
  cases last : front.getLast? with
  | none => rfl
  | some c => simp [(marks c (List.mem_of_getLast? last)).ends]

theorem illegalFrom_marks_append (text : List Char) :
    illegalFrom 0 (front ++ text) =
      (illegalFrom 0 text).map fun (offset, c) => (offset + byteLength front, c) := by
  rw [illegalFrom_append, illegalFrom_eq_nil fun c member => (marks c member).legal,
    List.nil_append]
  exact illegalFrom_relaid (.refl text) (carries_shift _ 0 text)

theorem callsFrom_marks_append (text : List Char) :
    List.Forall₂ (Call.Moved (· + byteLength front)) (callsFrom none 0 text)
      (callsFrom none 0 (front ++ text)) := by
  rw [callsFrom_pass (not_start_of_marks marks)]
  exact callsFrom_relaid (.refl text) (carries_shift _ 0 text) (getLast?_any_of_marks marks).symm

theorem declarationsFrom_marks_append (text : List Char) :
    declarationsFrom 0 none 0 (front ++ text) =
      (declarationsFrom 0 none 0 text).map (·.moved (· + byteLength front)) := by
  rw [declarationsFrom_pass (not_start_of_marks marks)]
  exact declarationsFrom_relaid (.refl text) (carries_shift _ 0 text)
    (getLast?_any_of_marks marks).symm

end Front

/-! ## Marks after a text -/

/-- Marks that close no parenthesis. -/
structure Trails (back : List Char) : Prop where
  marks : ∀ c ∈ back, IsMark c
  unclosed : ')' ∉ back

namespace Trails

variable {back : List Char} (trails : Trails back)

include trails

theorem not_mem_of_part {c : Char} (part : isIdentifierPart c = true) : c ∉ back := by
  intro member
  have none := isIdentifierPart_of_not_isWord (trails.marks c member).ends
  rw [part] at none
  cases none

theorem stops : ∀ c ∈ back.head?, isIdentifierPart c = false :=
  fun c first => isIdentifierPart_of_not_isWord (trails.marks c (List.mem_of_mem_head? first)).ends

theorem parameterList?_append (text : List Char) :
    parameterList? (text ++ back) = parameterList? text := by
  apply Option.ext
  intro list
  rw [parameterList?_eq_some_iff, parameterList?_eq_some_iff]
  refine and_congr_right fun shape => ⟨?_, ?_⟩
  · intro ⟨rest, split⟩
    obtain ⟨inside, written⟩ := shape.exists_close
    rw [written, List.append_assoc, List.singleton_append] at split
    obtain ⟨more, whole, _⟩ := exists_split_of_not_mem split trails.unclosed
    exact ⟨more, by simp [whole, written]⟩
  · intro ⟨rest, split⟩
    exact ⟨rest ++ back, by simp [split]⟩

theorem callHead?_append (before : Option Char) (c : Char) (rest : List Char) :
    callHead? before (c :: rest ++ back) = callHead? before (c :: rest) := by
  apply Option.ext
  intro ⟨name, arguments⟩
  rw [callHead?_iff, callHead?_iff]
  refine and_congr_right fun _ => and_congr_right fun _ => and_congr_right fun _ => ⟨?_, ?_⟩
  · intro ⟨after, split⟩
    have divided : c :: rest ++ back = name ++ '(' :: arguments ++ ')' :: after := by simp [split]
    obtain ⟨more, whole, _⟩ := exists_split_of_not_mem divided trails.unclosed
    exact ⟨more, by simp [whole]⟩
  · intro ⟨after, split⟩
    exact ⟨after ++ back, by simp [split]⟩

theorem heading?_append (before : Option Char) (c : Char) (rest : List Char) :
    heading? before (c :: rest ++ back) = heading? before (c :: rest) := by
  apply Option.ext
  intro heading
  rw [heading?_eq_some_iff, heading?_eq_some_iff]
  refine and_congr_right fun _ => ⟨?_, ?_⟩
  · intro ⟨word, gap, after, member, isGap, lead, identifier, stops, split, parameters⟩
    -- The last character of the name is no mark, so the name ends in the text.
    obtain ⟨init, last, named⟩ : ∃ init last, heading.name = init ++ [last] := by
      obtain ⟨first, tail, named, _⟩ := identifier.exists_cons
      exact ⟨_, _, (List.dropLast_append_getLast (by simp [named])).symm⟩
    have absent : last ∉ back := trails.not_mem_of_part (identifier.parts last (by simp [named]))
    have divided : c :: rest ++ back = word ++ (gap ++ init) ++ last :: after := by
      simp [split, named]
    obtain ⟨more, whole, rfl⟩ := exists_split_of_not_mem divided absent
    rw [trails.parameterList?_append] at parameters
    exact ⟨word, gap, more, member, isGap, lead, identifier, head?_stops_of_append stops,
      by simp [whole, named], parameters⟩
  · intro ⟨word, gap, after, member, isGap, lead, identifier, stops, split, parameters⟩
    rw [← trails.parameterList?_append] at parameters
    exact ⟨word, gap, after ++ back, member, isGap, lead, identifier,
      head?_append_stops stops trails.stops, by simp [split], parameters⟩

theorem illegalFrom_append (offset : Nat) (text : List Char) :
    illegalFrom offset (text ++ back) = illegalFrom offset text := by
  rw [Source.illegalFrom_append, illegalFrom_eq_nil fun c member => (trails.marks c member).legal,
    List.append_nil]

theorem callsFrom_append (before : Option Char) (offset : Nat) (text : List Char) :
    callsFrom before offset (text ++ back) = callsFrom before offset text := by
  induction text generalizing before offset with
  | nil =>
      have passed := callsFrom_pass (not_start_of_marks trails.marks) before offset []
      rw [List.append_nil] at passed
      exact passed
  | cons c rest ih =>
      have same := trails.callHead?_append before c rest
      rw [List.cons_append] at same ⊢
      rw [callsFrom, callsFrom, same, ih]

theorem declarationsFrom_back (skip : Nat) (before : Option Char) (offset : Nat) :
    declarationsFrom skip before offset back = [] := by
  have nothing := not_start_of_marks trails.marks
  clear trails
  induction back generalizing skip before offset with
  | nil => rfl
  | cons c rest ih =>
      have later (skip : Nat) := ih skip (some c) (offset + c.utf8Size) fun d member =>
        nothing d (List.mem_cons_of_mem _ member)
      cases skip with
      | zero =>
          rw [declarationsFrom_of_none
            (heading?_of_not_start (nothing c List.mem_cons_self) before rest)]
          exact later 0
      | succ skip => exact later skip

theorem declarationsFrom_append (skip : Nat) (before : Option Char) (offset : Nat)
    (text : List Char) :
    declarationsFrom skip before offset (text ++ back) =
      declarationsFrom skip before offset text := by
  induction text generalizing skip before offset with
  | nil => exact trails.declarationsFrom_back skip before offset
  | cons c rest ih =>
      have same := trails.heading?_append before c rest
      rw [List.cons_append] at same ⊢
      cases skip with
      | zero => rw [declarationsFrom, declarationsFrom, same]; simp only [ih]
      | succ skip => exact ih skip (some c) _

end Trails

end Source

end KarelLint
