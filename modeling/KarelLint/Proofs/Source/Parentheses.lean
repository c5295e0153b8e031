import Mathlib.Data.Option.Basic
import KarelLint.Source.Call

/-! Parentheses in the arguments of calls. What stands between the parentheses of a call is
balanced, and its commas outside of inner parentheses are those before which as much is closed
as was opened. -/

set_option autoImplicit false

namespace KarelLint.Source

/-- The number of open parentheses after a text, when `depth` of them are open before it.
There is none if the text closes more than was opened. -/
def level? (depth : Nat) : List Char → Option Nat
  | [] => some depth
  | c :: rest =>
      if c = '(' then level? (depth + 1) rest
      else if c = ')' then
        match depth with
        | 0 => none
        | depth + 1 => level? depth rest
      else level? depth rest

/-- A text in which each parenthesis is closed, and none is closed before it is opened. -/
structure Balanced (text : List Char) : Prop where
  nested : ∀ before, before <+: text → before.count ')' ≤ before.count '('
  even : text.count ')' = text.count '('

section Level

variable {depth : Nat} {rest : List Char}

@[simp] theorem level?_nil : level? depth [] = some depth := rfl

@[simp] theorem level?_open : level? depth ('(' :: rest) = level? (depth + 1) rest := rfl

@[simp] theorem level?_close_zero : level? 0 (')' :: rest) = none := rfl

@[simp] theorem level?_close_succ : level? (depth + 1) (')' :: rest) = level? depth rest := rfl

theorem level?_other {c : Char} (notOpen : c ≠ '(') (notClose : c ≠ ')') :
    level? depth (c :: rest) = level? depth rest :=
  (if_neg notOpen).trans (if_neg notClose)

end Level

theorem level?_append (depth : Nat) (left right : List Char) :
    level? depth (left ++ right) = (level? depth left).bind (level? · right) := by
  induction left generalizing depth with
  | nil => rfl
  | cons c left ih =>
      rw [List.cons_append]
      by_cases opens : c = '('
      · subst opens
        exact ih (depth + 1)
      · by_cases closes : c = ')'
        · subst closes
          cases depth with
          | zero => rfl
          | succ depth => exact ih depth
        · rw [level?_other opens closes, level?_other opens closes]
          exact ih depth

/-- A character that neither encloses arguments nor divides them. -/
def IsPlain (c : Char) : Prop :=
  c ≠ '(' ∧ c ≠ ')' ∧ c ≠ ','

theorem level?_append_of_plain {front : List Char} (plain : ∀ c ∈ front, IsPlain c)
    (depth : Nat) (rest : List Char) : level? depth (front ++ rest) = level? depth rest := by
  induction front with
  | nil => rfl
  | cons c front ih =>
      obtain ⟨notOpen, notClose, _⟩ := plain c List.mem_cons_self
      rw [List.cons_append, level?_other notOpen notClose]
      exact ih fun d member => plain d (List.mem_cons_of_mem _ member)

theorem forall_prefix_cons {c : Char} {rest : List Char} {holds : List Char → Prop} :
    (∀ before, before <+: c :: rest → holds before) ↔
      holds [] ∧ ∀ before, before <+: rest → holds (c :: before) := by
  constructor
  · intro all
    exact ⟨all [] List.nil_prefix, fun before initial =>
      all (c :: before) ((List.prefix_cons_inj c).mpr initial)⟩
  · rintro ⟨empty, longer⟩ before initial
    rcases List.prefix_cons_iff.mp initial with rfl | ⟨tail, rfl, shorter⟩
    · exact empty
    · exact longer tail shorter

/-- The level in terms of counts: no prefix closes more than was opened, and what is open in
the end is what was opened and not closed. -/
theorem level?_eq_some_iff {depth final : Nat} {text : List Char} :
    level? depth text = some final ↔
      (∀ before, before <+: text → before.count ')' ≤ depth + before.count '(') ∧
        final + text.count ')' = depth + text.count '(' := by
  induction text generalizing depth with
  | nil => simp [eq_comm]
  | cons c rest ih =>
      rw [forall_prefix_cons]
      by_cases opens : c = '('
      · subst opens
        rw [level?_open, ih]
        simp [Nat.add_right_comm, Nat.add_assoc]
      · by_cases closes : c = ')'
        · subst closes
          cases depth with
          | zero =>
              simp only [level?_close_zero, reduceCtorEq, false_iff, not_and]
              rintro ⟨_, longer⟩
              have first := longer [] List.nil_prefix
              simp at first
          | succ depth =>
              rw [level?_close_succ, ih]
              simp [Nat.add_right_comm, ← Nat.add_assoc]
        · rw [level?_other opens closes, ih]
          simp [opens, closes]

theorem balanced_iff_level? {text : List Char} : Balanced text ↔ level? 0 text = some 0 := by
  rw [level?_eq_some_iff]
  constructor
  · rintro ⟨nested, even⟩
    exact ⟨by simpa using nested, by simpa using even⟩
  · rintro ⟨nested, even⟩
    exact ⟨by simpa using nested, by simpa using even⟩

/-! ## The arguments of a call -/

theorem enclosed?_nil (depth : Nat) : enclosed? depth [] = none :=
  rfl

theorem enclosed?_other {depth : Nat} {c : Char} {rest : List Char} (notOpen : c ≠ '(')
    (notClose : c ≠ ')') : enclosed? depth (c :: rest) = (enclosed? depth rest).map (c :: ·) :=
  (if_neg notOpen).trans (if_neg notClose)

/-- What a parenthesis encloses closes all that was open before it, and a closing parenthesis
follows. -/
theorem enclosed?_eq_some_iff {depth : Nat} {text inside : List Char} :
    enclosed? depth text = some inside ↔
      level? depth inside = some 0 ∧ ∃ after, text = inside ++ ')' :: after := by
  induction text generalizing depth inside with
  | nil => simp [enclosed?_nil]
  | cons c rest ih =>
      -- A character that does not end the text in parentheses is the first one inside.
      have first {deeper : Nat} (level : ∀ inner, level? depth (c :: inner) = level? deeper inner)
          (step : enclosed? depth (c :: rest) = (enclosed? deeper rest).map (c :: ·))
          (ends : level? depth [] = some 0 → c ≠ ')') :
          enclosed? depth (c :: rest) = some inside ↔
            level? depth inside = some 0 ∧ ∃ after, c :: rest = inside ++ ')' :: after := by
        rw [step, Option.map_eq_some_iff]
        constructor
        · rintro ⟨inner, found, rfl⟩
          obtain ⟨closed, after, split⟩ := ih.mp found
          exact ⟨(level inner).trans closed, after, by rw [split]; rfl⟩
        · rintro ⟨closed, after, split⟩
          cases inside with
          | nil => exact False.elim (ends closed (List.cons.inj split).1)
          | cons d inner =>
              obtain ⟨rfl, remaining⟩ := List.cons.inj split
              exact ⟨inner, ih.mpr ⟨(level inner).symm.trans closed, after, remaining⟩, rfl⟩
      by_cases opens : c = '('
      · subst opens
        exact first (fun _ => rfl) rfl fun _ => by decide
      · by_cases closes : c = ')'
        · subst closes
          cases depth with
          | zero =>
              constructor
              · intro found
                cases found
                exact ⟨rfl, rest, rfl⟩
              · rintro ⟨closed, after, split⟩
                cases inside with
                | nil => rfl
                | cons d inner =>
                    obtain ⟨rfl, _⟩ := List.cons.inj split
                    cases closed
          | succ depth =>
              exact first (fun _ => rfl) rfl fun open_ => by cases open_
        · exact first (fun _ => level?_other opens closes) (enclosed?_other opens closes)
            fun _ => closes

theorem callHead?_eq_some_iff {before : Option Char} {text name arguments : List Char} :
    callHead? before text = some (name, arguments) ↔
      Text.wordBoundary before text.head? = true ∧
        ∃ inner, Text.identifier? text = some (name, '(' :: inner) ∧
          enclosed? 0 inner = some arguments := by
  unfold callHead?
  constructor
  · intro found
    obtain ⟨_, boundary, found⟩ := Option.bind_eq_some_iff.mp found
    obtain ⟨⟨word, after⟩, identified, found⟩ := Option.bind_eq_some_iff.mp found
    refine ⟨?_, ?_⟩
    · cases word : Text.wordBoundary before text.head? with
      | true => rfl
      | false =>
          rw [word] at boundary
          cases boundary
    · dsimp only at found
      split at found
      · next inner =>
          obtain ⟨enclosed, closes, same⟩ := Option.map_eq_some_iff.mp found
          obtain ⟨rfl, rfl⟩ := Prod.mk.inj same
          exact ⟨inner, identified, closes⟩
      · cases found
  · rintro ⟨boundary, inner, identified, closes⟩
    rw [guard, if_pos boundary, identified]
    exact Option.map_eq_some_iff.mpr ⟨arguments, closes, rfl⟩

theorem balanced_of_callHead? {before : Option Char} {text name arguments : List Char}
    (found : callHead? before text = some (name, arguments)) : Balanced arguments := by
  obtain ⟨_, _, _, closes⟩ := callHead?_eq_some_iff.mp found
  exact balanced_iff_level?.mpr (enclosed?_eq_some_iff.mp closes).1

/-- The arguments of every call of a text are balanced. -/
theorem balanced_of_mem_callsFrom {before : Option Char} {offset : Nat} {text : List Char}
    {call : Call} (member : call ∈ callsFrom before offset text) :
    Balanced call.arguments.toList := by
  induction text generalizing before offset with
  | nil => cases member
  | cons c rest ih =>
      rw [callsFrom] at member
      split at member
      · exact ih member
      · next name arguments found =>
          rcases List.mem_cons.mp member with rfl | later
          · rw [String.toList_ofList]
            exact balanced_of_callHead? found
          · exact ih later

/-- A comma outside of inner parentheses, which divides the arguments of a call. -/
def IsDivided (arguments : List Char) : Prop :=
  ∃ first rest, arguments = first ++ ',' :: rest ∧ first.count ')' = first.count '('

theorem outerCommas_nil (depth : Nat) : outerCommas depth [] = 0 :=
  rfl

theorem outerCommas_other {depth : Nat} {c : Char} {rest : List Char} (notOpen : c ≠ '(')
    (notClose : c ≠ ')') (notDividing : ¬ (c = ',' ∧ depth = 0)) :
    outerCommas depth (c :: rest) = outerCommas depth rest :=
  calc outerCommas depth (c :: rest)
    _ = if c = ')' then outerCommas (depth - 1) rest
        else if c = ',' ∧ depth = 0 then outerCommas depth rest + 1
        else outerCommas depth rest := if_neg notOpen
    _ = if c = ',' ∧ depth = 0 then outerCommas depth rest + 1
        else outerCommas depth rest := if_neg notClose
    _ = outerCommas depth rest := if_neg notDividing

theorem outerCommas_append_of_plain {front : List Char} (plain : ∀ c ∈ front, IsPlain c)
    (depth : Nat) (rest : List Char) :
    outerCommas depth (front ++ rest) = outerCommas depth rest := by
  induction front with
  | nil => rfl
  | cons c front ih =>
      obtain ⟨notOpen, notClose, notComma⟩ := plain c List.mem_cons_self
      rw [List.cons_append, outerCommas_other notOpen notClose fun divides => notComma divides.1]
      exact ih fun d member => plain d (List.mem_cons_of_mem _ member)

theorem outerCommas_pos_iff {depth final : Nat} {text : List Char}
    (reached : level? depth text = some final) :
    0 < outerCommas depth text ↔
      ∃ first rest, text = first ++ ',' :: rest ∧ level? depth first = some 0 := by
  induction text generalizing depth with
  | nil => simp [outerCommas_nil]
  | cons c rest ih =>
      have later {deeper : Nat} (level : ∀ inner, level? depth (c :: inner) = level? deeper inner)
          (step : outerCommas depth (c :: rest) = outerCommas deeper rest)
          (dividing : depth = 0 → c ≠ ',') :
          0 < outerCommas depth (c :: rest) ↔
            ∃ first after, c :: rest = first ++ ',' :: after ∧ level? depth first = some 0 := by
        rw [step, ih ((level rest).symm.trans reached)]
        constructor
        · rintro ⟨first, after, split, closed⟩
          exact ⟨c :: first, after, by rw [split]; rfl, (level first).trans closed⟩
        · rintro ⟨first, after, split, closed⟩
          cases first with
          | nil => exact False.elim (dividing (by simpa using closed) (List.cons.inj split).1)
          | cons d first =>
              obtain ⟨rfl, remaining⟩ := List.cons.inj split
              exact ⟨first, after, remaining, (level first).symm.trans closed⟩
      by_cases opens : c = '('
      · subst opens
        exact later (fun _ => rfl) rfl fun _ => by decide
      · by_cases closes : c = ')'
        · subst closes
          cases depth with
          | zero => cases reached
          | succ depth => exact later (fun _ => rfl) rfl fun _ => by decide
        · by_cases divides : c = ',' ∧ depth = 0
          · obtain ⟨rfl, rfl⟩ := divides
            constructor
            · intro _
              exact ⟨[], rest, rfl, rfl⟩
            · intro _
              exact Nat.succ_pos _
          · apply later (fun _ => level?_other opens closes)
              (outerCommas_other opens closes divides)
            intro top comma
            exact divides ⟨comma, top⟩

/-- Balanced arguments have a comma that divides them if they have one before which as much is
closed as was opened. -/
theorem outerCommas_pos_iff_isDivided {arguments : List Char} (balanced : Balanced arguments) :
    0 < outerCommas 0 arguments ↔ IsDivided arguments := by
  rw [outerCommas_pos_iff (balanced_iff_level?.mp balanced)]
  constructor
  · rintro ⟨first, rest, split, closed⟩
    exact ⟨first, rest, split, (balanced_iff_level?.mpr closed).even⟩
  · rintro ⟨first, rest, split, even⟩
    refine ⟨first, rest, split, balanced_iff_level?.mp ⟨?_, even⟩⟩
    intro before initial
    apply balanced.nested
    rw [split]
    exact initial.trans (List.prefix_append _ _)

end KarelLint.Source
