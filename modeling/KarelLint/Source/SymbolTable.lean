import KarelLint.OrderedMap

/-! The procedures that a program declares, in the order of their names. -/

set_option autoImplicit false

namespace KarelLint.Source

/-- How many parameters a procedure has. -/
inductive Arity where
  | nullary
  | unary
  deriving DecidableEq, Repr

/-- What is known of a name: the parameters of its procedure and where it is declared. -/
structure Signature where
  arity : Arity
  offset : Nat
  deriving DecidableEq, Repr

/-- A declared procedure. -/
structure Symbol extends Signature where
  name : String
  deriving DecidableEq, Repr

/-- The procedures of a program by name. Each name has the signature that it was first
given. -/
structure SymbolTable where
  signatures : OrderedMap String Signature

namespace SymbolTable

/-- The table without procedures. -/
def empty : SymbolTable where
  signatures := ∅

instance : EmptyCollection SymbolTable where
  emptyCollection := empty

/-- The procedure of a name. -/
def get? (table : SymbolTable) (name : String) : Option Symbol :=
  (table.signatures.get? name).map fun signature => { signature with name }

/-- Whether a name has a procedure. -/
def contains (table : SymbolTable) (name : String) : Bool :=
  table.signatures.contains name

/-- Enter a procedure, unless its name has one, and tell whether it was entered. -/
def insert (table : SymbolTable) (symbol : Symbol) : SymbolTable × Bool :=
  if table.contains symbol.name then (table, false)
  else ({ signatures := table.signatures.insert symbol.name symbol.toSignature }, true)

/-- The procedures in ascending order of their names. -/
def toList (table : SymbolTable) : List Symbol :=
  table.signatures.entries.map fun (name, signature) => { signature with name }

/-- The names in ascending order. -/
def names (table : SymbolTable) : List String :=
  table.signatures.keys

/-- The number of procedures. -/
def size (table : SymbolTable) : Nat :=
  table.signatures.size

/-- Whether there is no procedure. -/
def isEmpty (table : SymbolTable) : Bool :=
  table.size == 0

/-- The table of some procedures, entered in the order of the list. -/
def ofList (symbols : List Symbol) : SymbolTable :=
  symbols.foldl (fun table symbol => (table.insert symbol).1) ∅

end SymbolTable

end KarelLint.Source
