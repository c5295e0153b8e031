import Mathlib.Data.List.Induction
import KarelLint.Proofs.Diagnosis.CallVerdict
import KarelLint.Proofs.Source.Nesting

/-! How arguments are counted. The count keeps a number of open parentheses that never falls below
zero. On the arguments of a call it never has to be kept from that, because they are balanced, and
on balanced text counting is compositional. -/

set_option autoImplicit false

namespace KarelLint

namespace Source

/-! ## Commas across a text -/

/-- A text leads from one number of open parentheses to another, and closes none that is not open. -/
inductive Levels : Nat → List Char → Nat → Prop where
  | done {depth : Nat} : Levels depth [] depth
  | opens {depth final : Nat} {rest : List Char} : Levels (depth + 1) rest final →
      Levels depth ('(' :: rest) final
  | closes {depth final : Nat} {rest : List Char} : Levels depth rest final →
      Levels (depth + 1) (')' :: rest) final
  | passes {depth final : Nat} {c : Char} {rest : List Char} : c ≠ '(' → c ≠ ')' →
      Levels depth rest final → Levels depth (c :: rest) final

theorem levels_of_level? {depth final : Nat} {text : List Char}
    (reached : level? depth text = some final) : Levels depth text final := by
  induction text generalizing depth with
  | nil =>
      cases reached
      exact .done
  | cons c text ih =>
      by_cases opens : c = '('
      · subst opens
        exact .opens (ih reached)
      · by_cases closes : c = ')'
        · subst closes
          cases depth with
          | zero => cases reached
          | succ depth => exact .closes (ih reached)
        · rw [level?_other opens closes] at reached
          exact .passes opens closes (ih reached)

theorem Balanced.levels {text : List Char} (balanced : Balanced text) : Levels 0 text 0 :=
  levels_of_level? (balanced_iff_level?.mp balanced)

theorem outerCommas_single {depth : Nat} {c : Char} :
    outerCommas depth [c] = if c = ',' ∧ depth = 0 then 1 else 0 := by
  by_cases opens : c = '('
  · subst opens
    rfl
  · by_cases closes : c = ')'
    · subst closes
      rfl
    · simp [outerCommas, opens, closes]

namespace Levels

variable {depth final : Nat} {text : List Char}

/-- The count goes on after a text with the parentheses that the text leaves open. -/
theorem outerCommas_append (levels : Levels depth text final) (rest : List Char) :
    outerCommas depth (text ++ rest) = outerCommas depth text + outerCommas final rest := by
  induction levels with
  | done => simp [outerCommas]
  | opens _ ih => exact ih
  | closes _ ih => exact ih
  | @passes depth final c text notOpen notClose _ ih =>
      by_cases divides : c = ',' ∧ depth = 0
      · obtain ⟨rfl, rfl⟩ := divides
        have counted (tail : List Char) :
            outerCommas 0 (',' :: tail) = outerCommas 0 tail + 1 := rfl
        rw [List.cons_append, counted, counted, ih]
        omega
      · simpa only [List.cons_append, outerCommas_other notOpen notClose divides] using ih

/-- No comma counts while a parenthesis is open that the text does not close. -/
theorem outerCommas_enclosed (levels : Levels depth text final) :
    outerCommas (depth + 1) text = 0 := by
  induction levels with
  | done => rfl
  | opens _ ih => exact ih
  | closes _ ih => exact ih
  | @passes depth final c text notOpen notClose _ ih =>
      have inside : ¬ (c = ',' ∧ depth + 1 = 0) := fun divides => by cases divides.2
      rw [outerCommas_other notOpen notClose inside]
      exact ih

end Levels

/-! ## Commas by what stands before them -/

instance : DecidablePred Balanced :=
  fun _ => decidable_of_iff _ balanced_iff_level?.symm

/-- The indices of the commas of a text before which the text is balanced. -/
def dividers (text : List Char) : List Nat :=
  (List.range text.length).filter fun index => text[index]? = some ',' ∧ Balanced (text.take index)

theorem dividers_concat (text : List Char) (c : Char) :
    dividers (text ++ [c]) =
      dividers text ++ if c = ',' ∧ Balanced text then [text.length] else [] := by
  have earlier : (List.range text.length).filter (fun index =>
      (text ++ [c])[index]? = some ',' ∧ Balanced ((text ++ [c]).take index)) = dividers text := by
    apply List.filter_congr
    intro index member
    have inside : index < text.length := List.mem_range.mp member
    rw [List.getElem?_append_left inside, List.take_append_of_le_length (Nat.le_of_lt inside)]
  rw [dividers, List.length_append, List.length_singleton, List.range_succ, List.filter_append,
    earlier]
  simp [List.filter_cons]

/-- The commas that count in a text are those before which it is balanced. The text itself may leave
parentheses open, so the induction can add one character after the other. -/
theorem outerCommas_eq_length_dividers {final : Nat} {text : List Char}
    (reached : level? 0 text = some final) : outerCommas 0 text = (dividers text).length := by
  induction text using List.reverseRecOn generalizing final with
  | nil => rfl
  | append_singleton text c ih =>
      rw [level?_append] at reached
      obtain ⟨depth, before, _⟩ := Option.bind_eq_some_iff.mp reached
      have balanced : Balanced text ↔ depth = 0 := by
        rw [balanced_iff_level?, before, Option.some_inj]
      rw [(levels_of_level? before).outerCommas_append, ih before, dividers_concat,
        outerCommas_single, List.length_append]
      simp only [balanced]
      split
      · rfl
      · rfl

/-! ## A count that checks its parentheses -/

/-- The number of commas outside parentheses, if no parenthesis is closed that is not open. -/
def strictCommas? (depth : Nat) : List Char → Option Nat
  | [] => some 0
  | c :: rest =>
      if c = '(' then strictCommas? (depth + 1) rest
      else if c = ')' then
        match depth with
        | 0 => none
        | depth + 1 => strictCommas? depth rest
      else if c = ',' ∧ depth = 0 then (strictCommas? depth rest).map (· + 1)
      else strictCommas? depth rest

/-- The number of arguments, if no parenthesis is closed that is not open. -/
def Call.strictCount? (call : Call) : Option Nat :=
  if call.hasArguments then (strictCommas? 0 call.arguments.toList).map (· + 1) else some 0

theorem strictCommas?_other {depth : Nat} {c : Char} {rest : List Char} (notOpen : c ≠ '(')
    (notClose : c ≠ ')') (notDividing : ¬ (c = ',' ∧ depth = 0)) :
    strictCommas? depth (c :: rest) = strictCommas? depth rest := by
  rw [strictCommas?.eq_def]
  simp only [notOpen, notClose, notDividing, if_false]

theorem Levels.strictCommas? {depth final : Nat} {text : List Char}
    (levels : Levels depth text final) :
    strictCommas? depth text = some (outerCommas depth text) := by
  induction levels with
  | done => rfl
  | opens _ ih => exact ih
  | closes _ ih => exact ih
  | @passes depth final c text notOpen notClose _ ih =>
      by_cases divides : c = ',' ∧ depth = 0
      · obtain ⟨rfl, rfl⟩ := divides
        exact congrArg (Option.map (· + 1)) ih
      · rw [strictCommas?_other notOpen notClose divides,
          outerCommas_other notOpen notClose divides]
        exact ih

theorem Call.strictCount?_eq {call : Call} (balanced : Balanced call.arguments.toList) :
    call.strictCount? = some call.argumentCount := by
  unfold strictCount? argumentCount
  cases call.hasArguments with
  | false => rfl
  | true =>
      rw [balanced.levels.strictCommas?]
      rfl

end Source

namespace Diagnosis

open KarelLint.Source

/-! ## The number of arguments -/

section Counts

variable {call : Call}

theorem argumentCount_of_present (present : ¬ IsBlank call.arguments.toList) :
    call.argumentCount = outerCommas 0 call.arguments.toList + 1 :=
  if_pos (hasArguments_iff.mpr present)

theorem hasArguments_eq_false_iff : call.hasArguments = false ↔ IsBlank call.arguments.toList := by
  rw [← Bool.not_eq_true, hasArguments_iff, Classical.not_not]

theorem argumentCount_eq_zero_iff : call.argumentCount = 0 ↔ call.hasArguments = false := by
  unfold Call.argumentCount
  cases call.hasArguments with
  | false => simp
  | true => simp

theorem argumentCount_divided {first second : Call} (balanced : Balanced first.arguments.toList)
    (present : ¬ IsBlank first.arguments.toList) (present' : ¬ IsBlank second.arguments.toList)
    (joined : call.arguments = first.arguments ++ "," ++ second.arguments) :
    call.argumentCount = first.argumentCount + second.argumentCount := by
  have text : call.arguments.toList =
      first.arguments.toList ++ ',' :: second.arguments.toList := by
    simp [joined]
  have whole : ¬ IsBlank call.arguments.toList := by
    intro blank
    apply present
    intro c member
    exact blank c (text ▸ List.mem_append_left _ member)
  have comma : outerCommas 0 (',' :: second.arguments.toList) =
      outerCommas 0 second.arguments.toList + 1 := rfl
  rw [argumentCount_of_present whole, argumentCount_of_present present,
    argumentCount_of_present present', text, balanced.levels.outerCommas_append, comma]
  omega

theorem argumentCount_enclosed {front inner : List Char} (plain : ∀ c ∈ front, IsPlain c)
    (balanced : Balanced inner)
    (text : call.arguments.toList = front ++ '(' :: (inner ++ [')'])) : call.argumentCount = 1 := by
  have present : ¬ IsBlank call.arguments.toList := by
    intro blank
    have mark : Text.isBlank '(' = true := blank '(' (by simp [text])
    cases mark
  have opened : Levels 1 inner 1 := levels_of_level? (level?_add 1 (balanced_iff_level?.mp balanced))
  have inside : outerCommas 0 ('(' :: (inner ++ [')'])) = outerCommas 1 (inner ++ [')']) := rfl
  rw [argumentCount_of_present present, text, outerCommas_append_of_plain plain, inside,
    opened.outerCommas_append, balanced.levels.outerCommas_enclosed]
  rfl

end Counts

/-- Counting arguments is compositional. The arguments of calls are balanced, so no count is kept
from falling below zero on them. Only blank arguments count as none. Balanced text counts one more
than its commas with balanced text before them, a comma between two arguments adds their counts, and
what stands in parentheses counts once, whatever it is. -/
theorem argument_counts_compose :
    (∀ text, ∀ call ∈ calls text,
      Balanced call.arguments.toList ∧ call.strictCount? = some call.argumentCount) ∧
    (∀ call : Call, (call.argumentCount = 0 ↔ IsBlank call.arguments.toList) ∧
      (call.hasArguments = false ↔ IsBlank call.arguments.toList)) ∧
    (∀ call : Call, Balanced call.arguments.toList → ¬ IsBlank call.arguments.toList →
      call.argumentCount = 1 + (dividers call.arguments.toList).length) ∧
    (∀ first second whole : Call, Balanced first.arguments.toList →
      ¬ IsBlank first.arguments.toList → ¬ IsBlank second.arguments.toList →
      whole.arguments = first.arguments ++ "," ++ second.arguments →
      whole.argumentCount = first.argumentCount + second.argumentCount) ∧
    ∀ (call : Call) (front inner : List Char), (∀ c ∈ front, IsPlain c) → Balanced inner →
      call.arguments.toList = front ++ '(' :: (inner ++ [')']) → call.argumentCount = 1 := by
  refine ⟨?found, ?blank, ?counted, ?divided, ?enclosed⟩
  case found =>
    intro text call member
    have balanced := balanced_of_mem_callsFrom member
    exact ⟨balanced, Call.strictCount?_eq balanced⟩
  case blank =>
    intro call
    exact ⟨argumentCount_eq_zero_iff.trans hasArguments_eq_false_iff, hasArguments_eq_false_iff⟩
  case counted =>
    intro call balanced present
    have commas := outerCommas_eq_length_dividers (balanced_iff_level?.mp balanced)
    rw [argumentCount_of_present present, commas, Nat.add_comm]
  case divided =>
    intro first second whole balanced present present' joined
    exact argumentCount_divided balanced present present' joined
  case enclosed =>
    intro call front inner plain balanced text
    exact argumentCount_enclosed plain balanced text

/-- Two arguments with commas inside their own parentheses. -/
def twoArguments : Call :=
  ⟨"f", 0, "g(a, b), h((c), d) "⟩

theorem argument_counts_compose_twoArguments :
    Balanced twoArguments.arguments.toList ∧ dividers twoArguments.arguments.toList = [7] ∧
    twoArguments.argumentCount = 1 + (dividers twoArguments.arguments.toList).length ∧
    twoArguments.argumentCount =
      (⟨"f", 0, "g(a, b)"⟩ : Call).argumentCount + (⟨"f", 0, " h((c), d) "⟩ : Call).argumentCount ∧
    (⟨"f", 0, "g(a, b)"⟩ : Call).argumentCount = 1 := by
  have balanced : Balanced twoArguments.arguments.toList := by decide
  obtain ⟨_, _, counted, divided, enclosed⟩ := argument_counts_compose
  have present {text : List Char} (member : 'a' ∈ text ∨ 'h' ∈ text) : ¬ IsBlank text := by
    intro blank
    rcases member with first | second
    · cases blank 'a' first
    · cases blank 'h' second
  refine ⟨balanced, by decide, counted _ balanced (present (by decide)),
    divided _ _ _ (by decide) (present (by decide)) (present (by decide)) rfl,
    enclosed _ ['g'] "a, b".toList ?_ (by decide) rfl⟩
  intro c member
  obtain rfl := List.mem_singleton.mp member
  exact ⟨by decide, by decide, by decide⟩

end Diagnosis

end KarelLint
