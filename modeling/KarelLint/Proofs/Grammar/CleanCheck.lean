import KarelLint.Proofs.Diagnosis.CallVerdict
import KarelLint.Proofs.Grammar.Program
import KarelLint.Proofs.Source.Scanned

/-! The check of a well-formed program finds nothing wrong and recovers its procedures. -/

set_option autoImplicit false

namespace KarelLint.Grammar

open KarelLint.Source KarelLint.Diagnosis KarelLint.Text

/-! ## Words -/

theorem WordOf.isIdentifier {words : List String}
    (all : ∀ word ∈ words, IsIdentifier word.toList) (word : WordOf words) :
    IsIdentifier word.chars :=
  all word.val word.property

theorem WordOf.ofList_chars {words : List String} (word : WordOf words) :
    String.ofList word.chars = word.val :=
  String.ofList_toList

theorem isIdentifier_of_function (function : WordOf functions) : IsIdentifier function.chars :=
  function.isIdentifier (by decide)

theorem isKeyword_of_function (function : WordOf functions) : isKeyword function.val = true := by
  have all : ∀ word ∈ functions, isKeyword word = true := by decide
  exact all function.val function.property

theorem isKeyword_of_control (word : WordOf controls) : isKeyword word.val = true := by
  have all : ∀ word ∈ controls, isKeyword word = true := by decide
  exact all word.val word.property

theorem level?_of_parts {text : List Char} (parts : ∀ c ∈ text, isIdentifierPart c = true)
    (depth : Nat) : level? depth text = some depth := by
  simpa using level?_append_of_plain (plain_of_parts parts) depth []

theorem not_isBlank_of_part {text : List Char} {c : Char} (member : c ∈ text)
    (part : isIdentifierPart c = true) : ¬ IsBlank text := by
  intro blank
  have visible := isBlank_of_isIdentifierPart part
  rw [blank c member] at visible
  cases visible

theorem exists_part_of_isIdentifier {name : List Char} (identifier : IsIdentifier name) :
    ∃ c ∈ name, isIdentifierPart c = true := by
  cases name with
  | nil => cases identifier
  | cons first tail => exact ⟨first, List.mem_cons_self, identifier.parts first List.mem_cons_self⟩

/-! ## Expressions -/

namespace Expression

variable {accept : String → List Char → Prop}

/-- An expression before a closing parenthesis is cut into marks, numbers and words. -/
theorem scanned (keyword : ∀ name arguments, isKeyword name = true → accept name arguments)
    (expression : Expression) {offset : Nat} {rest : List Char} {found : List Declaration}
    (after : Scanned accept (offset + byteLength expression.written + ')'.utf8Size) rest found) :
    Scanned accept offset (expression.written ++ ')' :: rest) found := by
  have closing : IsMark ')' := by decide
  induction expression generalizing offset rest with
  | number numeral => exact .number numeral.numeric closing after
  | «variable» name ordinary =>
      exact .word name.valid closing (fun blank => absurd blank (by decide))
        (fun opening => absurd opening (by decide)) after
  | apply function argument ih =>
      have inner : Scanned accept (offset + byteLength function.chars + '('.utf8Size)
          (argument.written ++ ')' :: (')' :: rest)) found := by
        apply ih
        apply Scanned.mark closing
        simpa [written, Nat.add_assoc] using after
      have text : (apply function argument).written ++ ')' :: rest =
          function.chars ++ '(' :: (argument.written ++ ')' :: (')' :: rest)) := by
        simp [written]
      rw [text]
      apply Scanned.word (isIdentifier_of_function function) (by decide)
        (fun blank => absurd blank (by decide)) _ inner
      intro _ arguments _
      rw [function.ofList_chars]
      exact keyword _ _ (isKeyword_of_function function)
  | negate operand ih =>
      apply Scanned.mark (by decide)
      apply ih
      simpa [written, Nat.add_assoc] using after

/-- An expression closes all parentheses that it opens. -/
theorem level?_written (expression : Expression) (depth : Nat) :
    level? depth expression.written = some depth := by
  induction expression generalizing depth with
  | number numeral =>
      exact level?_of_parts (fun c member =>
        isIdentifierPart_of_isDigit (numeral.numeric c member)) depth
  | «variable» name _ => exact level?_of_parts name.valid.parts depth
  | apply function argument ih =>
      have parts := (isIdentifier_of_function function).parts
      rw [written, level?_append, level?_of_parts parts, Option.bind_some, level?_open,
        level?_append, ih (depth + 1)]
      rfl
  | negate operand ih =>
      rw [written, level?_other (by decide) (by decide)]
      exact ih depth

theorem enclosed?_written (expression : Expression) (rest : List Char) :
    enclosed? 0 (expression.written ++ ')' :: rest) = some expression.written :=
  enclosed?_eq_some_iff.mpr ⟨expression.level?_written 0, rest, rfl⟩

theorem not_isBlank_written (expression : Expression) : ¬ IsBlank expression.written := by
  cases expression with
  | number numeral =>
      obtain ⟨digit, member⟩ := List.exists_mem_of_ne_nil _ numeral.nonempty
      exact not_isBlank_of_part member (isIdentifierPart_of_isDigit (numeral.numeric digit member))
  | «variable» name _ =>
      obtain ⟨first, member, part⟩ := exists_part_of_isIdentifier name.valid
      exact not_isBlank_of_part member part
  | apply function argument =>
      obtain ⟨first, member, part⟩ :=
        exists_part_of_isIdentifier (isIdentifier_of_function function)
      exact not_isBlank_of_part (List.mem_append_left _ member) part
  | negate operand =>
      intro blank
      have mark : isBlank '!' = true := blank '!' List.mem_cons_self
      revert mark
      decide

/-- No comma stands in an expression, because its characters are legal. -/
theorem not_isDivided_written (expression : Expression) : ¬ IsDivided expression.written := by
  rintro ⟨first, later, split, _⟩
  have scanned : Scanned (fun _ _ => True) 0 (expression.written ++ ')' :: []) [] :=
    expression.scanned (fun _ _ _ => trivial) .done
  have comma : isLegal ',' = true := scanned.legal ',' (by simp [split])
  revert comma
  decide

end Expression

/-! ## Blocks -/

/-- What a text with some declarations may call without a problem. -/
def Harmless (declarations : List Declaration) (name : String) (arguments : List Char) : Prop :=
  ∃ meaning, Means declarations name meaning ∧ Verdict name arguments meaning none

section Harmless

variable {declarations : List Declaration}

theorem harmless_keyword (name : String) (arguments : List Char)
    (keyword : isKeyword name = true) : Harmless declarations name arguments :=
  ⟨.keyword, .keyword keyword, .keyword⟩

theorem harmless_instruction (instruction : WordOf instructions) :
    Harmless declarations instruction.val [] := by
  have member : isInstruction instruction.val = true :=
    List.contains_iff_mem.mpr instruction.property
  exact ⟨.instruction, .instruction member, .bare isBlank_nil⟩

theorem means_of_mem (distinct : (declarations.map (·.name)).Nodup) {declaration : Declaration}
    (member : declaration ∈ declarations) (unreserved : isReserved declaration.name = false) :
    Means declarations declaration.name (.procedure declaration) := by
  obtain ⟨earlier, later, split⟩ := List.append_of_mem member
  refine .procedure unreserved split rfl ?_
  intro other before same
  rw [split, List.map_append, List.map_cons] at distinct
  have apart := (List.nodup_append.mp distinct).2.2
  exact apart other.name (List.mem_map_of_mem before) declaration.name List.mem_cons_self same

end Harmless

/-- Each declaration is that of a procedure, placed after those that are written before it. -/
theorem mem_declarationsAt_iff {declaration : Declaration} {offset : Nat}
    {procedures : List Procedure} :
    declaration ∈ declarationsAt offset procedures ↔
      ∃ earlier procedure later, procedures = earlier ++ procedure :: later ∧
        declaration =
          procedure.declaration (offset + byteLength (earlier.flatMap (·.written))) := by
  induction procedures generalizing offset with
  | nil => simp [declarationsAt]
  | cons first later ih =>
      rw [declarationsAt, List.mem_cons, ih]
      constructor
      · rintro (rfl | ⟨earlier, procedure, rest, rfl, rfl⟩)
        · exact ⟨[], first, later, rfl, rfl⟩
        · exact ⟨first :: earlier, procedure, rest, rfl, by simp [Nat.add_assoc]⟩
      · rintro ⟨earlier, procedure, rest, split, rfl⟩
        cases earlier with
        | nil =>
            obtain ⟨rfl, rfl⟩ := List.cons.inj split
            exact .inl rfl
        | cons head earlier =>
            obtain ⟨rfl, rfl⟩ := List.cons.inj split
            exact .inr ⟨earlier, procedure, rest, rfl, by simp [Nat.add_assoc]⟩

theorem map_name_declarationsAt (offset : Nat) (procedures : List Procedure) :
    (declarationsAt offset procedures).map (·.name) =
      procedures.map fun procedure => procedure.name.text := by
  induction procedures generalizing offset with
  | nil => rfl
  | cons first later ih =>
      rw [declarationsAt, List.map_cons, List.map_cons, ih]
      rfl

/-- A call of a declared procedure with an argument exactly if it has a parameter. -/
theorem harmless_call {procedures : List Procedure}
    (distinct : (procedures.map fun procedure => procedure.name.text).Nodup)
    {procedure : Procedure} (member : procedure ∈ procedures) {argument : Option Expression}
    (arity : procedure.parameter.isSome = argument.isSome) (offset : Nat) :
    Harmless (declarationsAt offset procedures) procedure.name.text (argumentText argument) := by
  obtain ⟨earlier, later, split⟩ := List.append_of_mem member
  have found : procedure.declaration (offset + byteLength (earlier.flatMap (·.written))) ∈
      declarationsAt offset procedures :=
    mem_declarationsAt_iff.mpr ⟨earlier, procedure, later, split, rfl⟩
  rw [← map_name_declarationsAt offset] at distinct
  have means := means_of_mem distinct found procedure.unreserved
  refine ⟨_, means, ?_⟩
  cases argument with
  | none =>
      have nullary {place : Nat} : (procedure.declaration place).parameter = none := by
        rw [Procedure.declaration, Option.map_eq_none_iff, ← Option.isNone_iff_eq_none,
          ← Option.isSome_eq_false_iff]
        exact arity
      exact .plain nullary isBlank_nil
  | some expression =>
      have unary {place : Nat} : (procedure.declaration place).parameter ≠ none := by
        rw [Procedure.declaration, Ne, Option.map_eq_none_iff, ← Ne, Option.ne_none_iff_isSome]
        exact arity
      exact .single unary expression.not_isBlank_written expression.not_isDivided_written

section Scanned

variable {procedures : List Procedure} {place : Nat} {offset : Nat} {rest : List Char}
  {found : List Declaration}

/-- The parentheses of a call, with what they enclose. -/
theorem scanned_argument (argument : Option Expression)
    (after : Scanned (Harmless (declarationsAt place procedures))
      (offset + byteLength (argumentText argument) + ')'.utf8Size) rest found) :
    Scanned (Harmless (declarationsAt place procedures)) offset
      (argumentText argument ++ ')' :: rest) found := by
  cases argument with
  | none => exact .mark (by decide) after
  | some expression => exact expression.scanned harmless_keyword after

theorem enclosed?_argumentText (argument : Option Expression) (rest : List Char) :
    enclosed? 0 (argumentText argument ++ ')' :: rest) = some (argumentText argument) := by
  cases argument with
  | none => rfl
  | some expression => exact expression.enclosed?_written rest

/-- A word that makes a block run, with its condition. -/
theorem scanned_control (word : WordOf controls) (spaced : Bool) (condition : Expression)
    (after : Scanned (Harmless (declarationsAt place procedures))
      (offset + byteLength word.chars + byteLength (if spaced then [' '] else []) + '('.utf8Size +
        byteLength condition.written + ')'.utf8Size) rest found) :
    Scanned (Harmless (declarationsAt place procedures)) offset
      (word.chars ++ ((if spaced then [' '] else []) ++
        '(' :: (condition.written ++ ')' :: rest))) found := by
  have identifier := word.isIdentifier (by decide)
  have keyword := isKeyword_of_control word
  cases spaced with
  | true =>
      apply Scanned.word identifier (by decide) ?ordinary
        (fun opening => absurd opening (by decide))
      · apply Scanned.mark (by decide)
        exact condition.scanned harmless_keyword after
      · intro _ declarator
        have apart : ∀ word ∈ controls, word ∉ declarators := by decide
        rw [word.ofList_chars] at declarator
        exact apart word.val word.property declarator
  | false =>
      apply Scanned.word identifier (by decide) (fun blank => absurd blank (by decide))
      · intro _ arguments _
        rw [word.ofList_chars]
        exact harmless_keyword _ _ keyword
      · exact condition.scanned harmless_keyword after

/-- A block whose calls are resolved is cut into its words and marks. -/
theorem Block.scanned (distinct : (procedures.map fun procedure => procedure.name.text).Nodup)
    {block : Block} (resolved : block.Resolved procedures)
    (after : Scanned (Harmless (declarationsAt place procedures))
      (offset + byteLength block.written) rest found) :
    Scanned (Harmless (declarationsAt place procedures)) offset (block.written ++ rest) found := by
  induction block generalizing offset rest with
  | done => exact after
  | instruct instruction later ih =>
      rw [written, List.append_assoc]
      apply Scanned.word (instruction.isIdentifier (by decide)) (by decide)
        (fun blank => absurd blank (by decide))
      · intro _ arguments enclosed
        rw [instruction.ofList_chars, ← Option.some.inj enclosed]
        exact harmless_instruction instruction
      · apply Scanned.marks [')', ';', '\n'] (by decide)
        apply ih resolved
        simpa [written, Nat.add_assoc] using after
  | call name argument later ih =>
      obtain ⟨⟨procedure, member, same, arity⟩, resolved⟩ := resolved
      rw [written, List.append_assoc, List.cons_append, List.append_assoc]
      apply Scanned.word name.valid (by decide) (fun blank => absurd blank (by decide))
      · intro _ arguments enclosed
        rw [List.cons_append, enclosed?_argumentText] at enclosed
        have harmless := harmless_call distinct member arity place
        rw [same] at harmless
        rw [← Option.some.inj enclosed]
        exact harmless
      · apply scanned_argument
        apply Scanned.marks [';', '\n'] (by decide)
        apply ih resolved
        simpa [written, Nat.add_assoc] using after
  | control word spaced condition body later bodyIh laterIh =>
      obtain ⟨bodyResolved, laterResolved⟩ := resolved
      have text : (control word spaced condition body later).written ++ rest =
          word.chars ++ ((if spaced then [' '] else []) ++ '(' :: (condition.written ++ ')' ::
            ([' ', '\x7b', '\n'] ++ (body.written ++ (['\x7d', '\n'] ++
              (later.written ++ rest)))))) := by
        simp [written]
      rw [text]
      apply scanned_control
      apply Scanned.marks _ (by decide)
      apply bodyIh bodyResolved
      apply Scanned.marks _ (by decide)
      apply laterIh laterResolved
      simpa [written, Nat.add_assoc] using after

/-- The procedures of a program are cut into their headings and their bodies. -/
theorem scanned_procedures
    (distinct : (procedures.map fun procedure => procedure.name.text).Nodup)
    {written : List Procedure}
    (bodies : ∀ procedure ∈ written, procedure.body.Resolved procedures)
    (after : Scanned (Harmless (declarationsAt place procedures))
      (offset + byteLength (written.flatMap (·.written))) rest []) :
    Scanned (Harmless (declarationsAt place procedures)) offset
      (written.flatMap (·.written) ++ rest) (declarationsAt offset written) := by
  induction written generalizing offset with
  | nil => exact after
  | cons procedure later ih =>
      have text : (procedure :: later).flatMap (·.written) ++ rest =
          procedure.heading ++ ([' ', '\x7b', '\n'] ++ (procedure.body.written ++
            (['\x7d', '\n'] ++ (later.flatMap (·.written) ++ rest)))) := by
        simp [Procedure.written]
      have declarator : String.ofList procedure.declarator.chars ∈ declarators := by
        rw [procedure.declarator.ofList_chars]
        exact procedure.declarator.property
      have parameters : ∀ inner ∈ procedure.parameter.map (·.chars), IsIdentifier inner := by
        intro inner member
        obtain ⟨identifier, _, rfl⟩ := Option.map_eq_some_iff.mp member
        exact identifier.valid
      have name : procedure.declaration offset =
          ⟨String.ofList procedure.name.chars, offset + byteLength procedure.declarator.chars + 1,
            (procedure.parameter.map (·.chars)).map String.ofList, true⟩ := by
        rw [Procedure.declaration, Option.map_map]
        rfl
      rw [text, declarationsAt, name]
      apply Scanned.heading declarator procedure.name.valid parameters
      apply Scanned.marks _ (by decide)
      apply Block.scanned distinct (bodies procedure List.mem_cons_self)
      apply Scanned.marks _ (by decide)
      have tail : Scanned (Harmless (declarationsAt place procedures))
          (offset + byteLength procedure.written) (later.flatMap (·.written) ++ rest)
          (declarationsAt (offset + byteLength procedure.written) later) := by
        apply ih fun other member => bodies other (List.mem_cons_of_mem _ member)
        simpa [Nat.add_assoc] using after
      simpa [Procedure.written, Procedure.heading, Nat.add_assoc] using tail

end Scanned

/-! ## Programs -/

namespace Program

theorem scanned (program : Program) :
    Scanned (Harmless program.declarations) 0 program.written program.declarations := by
  have text : program.written =
      "class".toList ++ ' ' :: ("program".toList ++ ' ' :: (['\x7b', '\n'] ++
        (program.procedures.flatMap (·.written) ++ ("program".toList ++ '(' ::
          ([')', ' ', '\x7b', '\n'] ++ (program.main.written ++
            (['\x7d', '\n', '\x7d', '\n'] ++ []))))))) := rfl
  rw [text]
  apply Scanned.word (by decide) (by decide) (fun _ => by decide)
    (fun opening => absurd opening (by decide))
  apply Scanned.word (by decide) (by decide) (fun _ => by decide)
    (fun opening => absurd opening (by decide))
  apply Scanned.marks _ (by decide)
  apply scanned_procedures program.distinct program.bodies
  apply Scanned.word (by decide) (by decide)
    (fun blank => absurd blank (by decide)) (fun _ _ _ => harmless_keyword _ _ (by decide))
  apply Scanned.marks _ (by decide)
  apply Block.scanned program.distinct program.start
  exact Scanned.marks _ (by decide) .done

theorem declarations_render (program : Program) :
    Source.declarations program.render = program.declarations := by
  rw [Source.declarations, render, String.toList_ofList]
  exact program.scanned.declarationsFrom_eq rfl

theorem distinct_declarations (program : Program) :
    (program.declarations.map (·.name)).Nodup := by
  rw [declarations, map_name_declarationsAt]
  exact program.distinct

theorem unreserved_declarations (program : Program) :
    ∀ declaration ∈ program.declarations, isReserved declaration.name = false := by
  intro declaration member
  have named : declaration.name ∈ program.declarations.map (·.name) := List.mem_map_of_mem member
  rw [declarations, map_name_declarationsAt] at named
  obtain ⟨procedure, _, same⟩ := List.mem_map.mp named
  rw [← same]
  exact procedure.unreserved

/-- No call of a program is a problem. -/
theorem judged_of_mem_calls (program : Program) {call : Call}
    (member : call ∈ calls program.render) : Judged program.declarations call none := by
  rw [calls, render, String.toList_ofList] at member
  by_cases heading : IsHeading program.declarations call
  · exact .heading heading
  · rcases program.scanned.accepted member with ⟨meaning, means, verdict⟩ | parenthesized
    · exact .named heading means verdict
    · exact absurd parenthesized heading

theorem callProblems_render (program : Program) :
    callProblems program.declarations (calls program.render)
      (tabulate program.declarations).1 = [] := by
  rw [callProblems_eq_filterMap]
  apply List.filterMap_eq_nil_iff.mpr
  intro call member
  have found := judged_judgement program.declarations (balanced_of_mem_callsFrom member)
  rw [judged_unique found (program.judged_of_mem_calls member)]
  rfl

theorem characterProblems_render (program : Program) : characterProblems program.render = [] := by
  rw [characterProblems, illegal, render, String.toList_ofList,
    illegalFrom_eq_nil program.scanned.legal]
  rfl

theorem get?_tabulate_declarations (program : Program) {name : String} {symbol : Symbol} :
    (tabulate program.declarations).1.get? name = some symbol ↔
      ∃ declaration ∈ program.declarations,
        declaration.name = name ∧ symbol = declared declaration := by
  rw [get?_tabulate, firstDeclared?]
  constructor
  · intro found
    split at found
    · cases found
    · obtain ⟨declaration, first, rfl⟩ := Option.map_eq_some_iff.mp found
      have same := List.find?_some first
      exact ⟨declaration, List.mem_of_find?_eq_some first, eq_of_beq same, rfl⟩
  · rintro ⟨declaration, member, rfl, rfl⟩
    have allowed := program.unreserved_declarations declaration member
    have means := means_of_mem program.distinct_declarations member allowed
    rw [allowed, if_neg Bool.false_ne_true, means.find?_eq_some]
    rfl

theorem declared_declaration (procedure : Procedure) (earlier : List Procedure) :
    declared (procedure.declaration
        (byteLength opening + byteLength (earlier.flatMap (·.written)))) =
      ⟨⟨procedure.arity, byteLength (before earlier procedure)⟩, procedure.name.text⟩ := by
  have place : byteLength (before earlier procedure) = byteLength opening +
      byteLength (earlier.flatMap (·.written)) + byteLength procedure.declarator.chars + 1 := by
    simp [before, utf8Size_space, Nat.add_assoc]
  rw [place, declared, Procedure.declaration, Procedure.arity]
  cases procedure.parameter with
  | none => rfl
  | some _ => rfl

/-- The check of a program finds no problem, whatever the limit, and recovers exactly its
procedures, each with its parameter and the place of its name. -/
theorem check_render_clean (program : Program) (limit : Nat) :
    (check program.render limit).problems = [] ∧
    Source.declarations program.render = program.declarations ∧
    ∀ name symbol, (check program.render limit).table.get? name = some symbol ↔
      ∃ earlier procedure later, program.procedures = earlier ++ procedure :: later ∧
        procedure.name.text = name ∧
        symbol = ⟨⟨procedure.arity, byteLength (before earlier procedure)⟩, name⟩ := by
  have rejected : (tabulate program.declarations).2 = [] :=
    problems_enterAll_eq_nil (fun _ _ => rfl) program.unreserved_declarations
      program.distinct_declarations
  refine ⟨?problems, program.declarations_render, ?table⟩
  case problems =>
    rw [check, program.declarations_render, program.characterProblems_render]
    dsimp only
    rw [rejected, program.callProblems_render, List.take_nil, List.take_nil]
    rfl
  case table =>
    intro name symbol
    rw [check, program.declarations_render]
    refine program.get?_tabulate_declarations.trans ?_
    constructor
    · rintro ⟨declaration, member, rfl, rfl⟩
      obtain ⟨earlier, procedure, later, split, rfl⟩ := mem_declarationsAt_iff.mp member
      exact ⟨earlier, procedure, later, split, rfl, declared_declaration procedure earlier⟩
    · rintro ⟨earlier, procedure, later, split, rfl, rfl⟩
      exact ⟨_, mem_declarationsAt_iff.mpr ⟨earlier, procedure, later, split, rfl⟩, rfl,
        (declared_declaration procedure earlier).symm⟩

/-! A program whose first procedure has names made of declarators, calls itself, and calls
one that is declared only later. -/

def avoidName : Identifier :=
  ⟨"avoid".toList, by decide +kernel⟩

def turnName : Identifier :=
  ⟨"turn".toList, by decide +kernel⟩

def avoidProcedure : Procedure where
  declarator := ⟨"void", by decide⟩
  name := avoidName
  unreserved := by decide +kernel
  parameter := some ⟨"define".toList, by decide +kernel⟩
  body :=
    .control ⟨"iterate", by decide⟩ false
      (.apply ⟨"succ", by decide⟩
        (.variable ⟨"voids".toList, by decide +kernel⟩ (by decide +kernel)))
      (.call turnName none
        (.call avoidName (some (.apply ⟨"pred", by decide⟩
          (.number ⟨['1', '2'], by decide, List.all_eq_true.mp (by decide)⟩))) .done))
      .done

def turnProcedure : Procedure where
  declarator := ⟨"define", by decide⟩
  name := turnName
  unreserved := by decide +kernel
  parameter := none
  body := .instruct ⟨"turnleft", by decide⟩ .done

def avoiding : Program where
  procedures := [avoidProcedure, turnProcedure]
  main :=
    .control ⟨"while", by decide⟩ true
      (.negate (.variable ⟨"facingNorth".toList, by decide +kernel⟩ (by decide +kernel)))
      (.call avoidName (some (.number ⟨['7'], by decide, List.all_eq_true.mp (by decide)⟩)) .done)
      .done
  distinct := by decide +kernel
  bodies := by simp [avoidProcedure, turnProcedure, Block.Resolved]
  start := by simp [avoidProcedure, turnProcedure, Block.Resolved]

theorem check_render_clean_avoiding :
    avoiding.render =
      "class program \x7b\nvoid avoid(define) \x7b\niterate(succ(voids)) \x7b\nturn();\n" ++
      "avoid(pred(12));\n\x7d\n\x7d\ndefine turn() \x7b\nturnleft();\n\x7d\n" ++
      "program() \x7b\nwhile (!facingNorth) \x7b\navoid(7);\n\x7d\n\x7d\n\x7d\n" ∧
    (check avoiding.render 0).problems = [] ∧
    (check avoiding.render 0).table.get? "turn" = some ⟨⟨.nullary, 96⟩, "turn"⟩ :=
  ⟨by decide +kernel, (check_render_clean avoiding 0).1,
    ((check_render_clean avoiding 0).2.2 "turn" _).mpr
      ⟨[avoidProcedure], turnProcedure, [], rfl, by decide, by decide⟩⟩

end Program

end KarelLint.Grammar
