/-! Finite maps kept as lists in ascending order of their keys. The order makes the
list canonical: two maps with the same look-ups are equal. -/

set_option autoImplicit false

namespace KarelLint

/-- A finite map as its entries in strictly ascending order of their keys. -/
structure OrderedMap (κ α : Type) [Ord κ] where
  entries : List (κ × α)
  ascending : entries.Pairwise fun left right => compare left.1 right.1 = .lt

namespace OrderedMap

variable {κ α : Type} [Ord κ]

/-- The map without entries. -/
def empty : OrderedMap κ α where
  entries := []
  ascending := .nil

instance : EmptyCollection (OrderedMap κ α) where
  emptyCollection := empty

/-- The keys in ascending order. -/
def keys (map : OrderedMap κ α) : List κ :=
  map.entries.map (·.1)

/-- The number of entries. -/
def size (map : OrderedMap κ α) : Nat :=
  map.entries.length

/-- The value at a key. -/
def get? [BEq κ] (map : OrderedMap κ α) (key : κ) : Option α :=
  map.entries.lookup key

/-- Whether a key has a value. -/
def contains [BEq κ] (map : OrderedMap κ α) (key : κ) : Bool :=
  (map.get? key).isSome

/-- Take a key and its value away. -/
def erase [BEq κ] (map : OrderedMap κ α) (key : κ) : OrderedMap κ α where
  entries := map.entries.filter fun entry => entry.1 != key
  ascending := map.ascending.filter _

/-- Put an entry in its place of an ascending list, over an entry with its key. -/
def put (key : κ) (value : α) : List (κ × α) → List (κ × α)
  | [] => [(key, value)]
  | entry :: later =>
      match compare key entry.1 with
      | .lt => (key, value) :: entry :: later
      | .eq => (key, value) :: later
      | .gt => entry :: put key value later

/-- The entries after a `put` are the new one and old ones. -/
theorem mem_put {key : κ} {value : α} {entries : List (κ × α)} {entry : κ × α}
    (member : entry ∈ put key value entries) : entry = (key, value) ∨ entry ∈ entries := by
  induction entries with
  | nil => simpa [put] using member
  | cons head later ih =>
      rw [put] at member
      split at member
      · simpa using member
      · rcases List.mem_cons.mp member with same | old
        · exact .inl same
        · exact .inr (List.mem_cons_of_mem _ old)
      · rcases List.mem_cons.mp member with same | old
        · exact .inr (same ▸ List.mem_cons_self)
        · exact (ih old).imp id (List.mem_cons_of_mem _)

variable [Std.TransOrd κ] [Std.LawfulEqOrd κ]

theorem pairwise_put {key : κ} {value : α} {entries : List (κ × α)}
    (ascending : entries.Pairwise fun left right => compare left.1 right.1 = .lt) :
    (put key value entries).Pairwise fun left right => compare left.1 right.1 = .lt := by
  induction entries with
  | nil => simp [put]
  | cons head later ih =>
      obtain ⟨first, rest⟩ := List.pairwise_cons.mp ascending
      rw [put]
      split
      · next below =>
          refine List.pairwise_cons.mpr ⟨?_, ascending⟩
          intro entry member
          rcases List.mem_cons.mp member with rfl | old
          · exact below
          · exact Std.TransCmp.lt_trans below (first entry old)
      · next same =>
          have equal : key = head.1 := Std.LawfulEqCmp.eq_of_compare same
          exact List.pairwise_cons.mpr ⟨fun entry old => equal ▸ first entry old, rest⟩
      · next above =>
          refine List.pairwise_cons.mpr ⟨?_, ih rest⟩
          intro entry member
          rcases mem_put member with rfl | old
          · exact Std.OrientedCmp.lt_of_gt above
          · exact first entry old

/-- Give a key a value, over the one that it has. -/
def insert (map : OrderedMap κ α) (key : κ) (value : α) : OrderedMap κ α where
  entries := put key value map.entries
  ascending := pairwise_put map.ascending

end OrderedMap

end KarelLint
