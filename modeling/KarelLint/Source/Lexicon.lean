/-! The words of Karel: what a program may not redefine, and what an editor can explain. -/

set_option autoImplicit false

namespace KarelLint.Source

/-- The words that introduce a procedure. -/
def declarators : List String :=
  ["define", "void"]

/-- The instructions that the robot understands. They take no parameter. -/
def instructions : List String :=
  ["move", "turnleft", "turnoff", "putbeeper", "pickbeeper"]

/-- The words with a meaning in the grammar, the arithmetic and the tests on the robot's
surroundings. -/
def keywords : List String :=
  ["class", "program", "define", "void", "if", "else", "while", "iterate", "return",
   "succ", "pred", "iszero",
   "frontIsClear", "frontIsBlocked", "leftIsClear", "leftIsBlocked", "rightIsClear",
   "rightIsBlocked", "nextToABeeper", "notNextToABeeper", "anyBeepersInBeeperBag",
   "noBeepersInBeeperBag", "facingNorth", "facingSouth", "facingEast", "facingWest",
   "notFacingNorth", "notFacingSouth", "notFacingEast", "notFacingWest"]

/-- One of the robot's instructions. -/
def isInstruction (name : String) : Bool :=
  instructions.contains name

/-- A word with a meaning in the grammar. -/
def isKeyword (name : String) : Bool :=
  keywords.contains name

/-- A word that cannot be the name of a procedure. -/
def isReserved (name : String) : Bool :=
  isInstruction name || isKeyword name

/-- A word that an editor offers in every program, with what it shows about the word. -/
structure Builtin where
  name : String
  detail : Option String
  documentation : Option String
  deriving DecidableEq, Repr

/-- The built-in words in the order in which they are offered. -/
def builtins : List Builtin :=
  [⟨"move", some "move()",
      some "Moves Karel one corner forward in the direction it is facing."⟩,
   ⟨"turnleft", some "turnleft()",
      some "Turns Karel 90 degrees to the left."⟩,
   ⟨"turnoff", some "turnoff()",
      some "Ends the execution of the program."⟩,
   ⟨"putbeeper", some "putbeeper()",
      some "Takes a beeper from the bag and leaves it on the current corner."⟩,
   ⟨"pickbeeper", some "pickbeeper()",
      some "Picks a beeper up from the current corner and puts it in the bag."⟩,
   ⟨"succ", none, none⟩,
   ⟨"pred", none, none⟩,
   ⟨"iszero", none, none⟩]

/-- The built-in word of a name. -/
def builtin? (name : String) : Option Builtin :=
  builtins.find? (·.name == name)

end KarelLint.Source
