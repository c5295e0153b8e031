import KarelLint.OrderedMap

/-! What each operation on an ordered map does to its look-ups, and that the look-ups
determine the map. -/

set_option autoImplicit false

namespace KarelLint

/-! ## Look-ups in lists of entries -/

namespace OrderedMap

/-- Keys of which one is below the other are different. -/
theorem ne_of_compare_eq_lt {κ : Type} [Ord κ] [Std.LawfulEqOrd κ] {left right : κ}
    (below : compare left right = .lt) : left ≠ right := by
  intro same
  have reflexive : compare right right = .eq := Std.ReflCmp.compare_self
  rw [same, reflexive] at below
  cases below

/-- Keys of which one is above the other are different. -/
theorem ne_of_compare_eq_gt {κ : Type} [Ord κ] [Std.LawfulEqOrd κ] {left right : κ}
    (above : compare left right = .gt) : left ≠ right := by
  intro same
  have reflexive : compare right right = .eq := Std.ReflCmp.compare_self
  rw [same, reflexive] at above
  cases above

section Entries

variable {κ α : Type} [BEq κ] [LawfulBEq κ]

theorem mem_of_lookup {key : κ} {value : α} {entries : List (κ × α)}
    (found : entries.lookup key = some value) : (key, value) ∈ entries := by
  obtain ⟨earlier, later, split, _⟩ := List.lookup_eq_some_iff.mp found
  rw [split]
  exact List.mem_append_right _ List.mem_cons_self

theorem lookup_cons_of_ne {key first : κ} (different : key ≠ first) (value : α)
    (later : List (κ × α)) : ((first, value) :: later).lookup key = later.lookup key := by
  have unequal : (key == first) = false := beq_eq_false_iff_ne.mpr different
  rw [List.lookup_cons, unequal]

/-- A choice of keys keeps the values of the keys that are chosen. -/
theorem lookup_filter_key (chosen : κ → Bool) (key : κ) (entries : List (κ × α)) :
    (entries.filter fun entry => chosen entry.1).lookup key =
      if chosen key then entries.lookup key else none := by
  induction entries with
  | nil => simp
  | cons head later ih =>
      obtain ⟨first, value⟩ := head
      by_cases found : key = first
      · subst found
        cases kept : chosen key with
        | true => simp [kept]
        | false => simpa [kept] using ih
      · rw [lookup_cons_of_ne found, ← ih]
        cases kept : chosen first with
        | true => simp [kept, lookup_cons_of_ne found]
        | false => simp [kept]

theorem lookup_filter_ne (key other : κ) (entries : List (κ × α)) :
    (entries.filter fun entry => entry.1 != key).lookup other =
      if other == key then none else entries.lookup other := by
  rw [lookup_filter_key (· != key), bne]
  cases other == key with
  | true => rfl
  | false => rfl

variable [Ord κ] [Std.LawfulEqOrd κ]

/-- A key below all keys of a list has no entry there. -/
theorem lookup_eq_none_of_lt {key : κ} {entries : List (κ × α)}
    (below : ∀ entry ∈ entries, compare key entry.1 = .lt) : entries.lookup key = none := by
  induction entries with
  | nil => rfl
  | cons head later ih =>
      have different : key ≠ head.1 := ne_of_compare_eq_lt (below head List.mem_cons_self)
      rw [lookup_cons_of_ne different]
      exact ih fun entry member => below entry (List.mem_cons_of_mem _ member)

theorem lookup_put (key other : κ) (value : α) (entries : List (κ × α)) :
    (put key value entries).lookup other =
      if other == key then some value else entries.lookup other := by
  induction entries with
  | nil =>
      by_cases found : other = key
      · subst found
        simp [put]
      · rw [put, lookup_cons_of_ne found]
        simp [found]
  | cons head later ih =>
      obtain ⟨first, old⟩ := head
      rw [put]
      split
      · by_cases found : other = key
        · subst found
          simp
        · rw [lookup_cons_of_ne found]
          simp [found]
      · next same =>
          obtain rfl : key = first := Std.LawfulEqCmp.eq_of_compare same
          by_cases found : other = key
          · subst found
            simp
          · rw [lookup_cons_of_ne found, lookup_cons_of_ne found]
            simp [found]
      · next above =>
          by_cases found : other = first
          · subst found
            have different : other ≠ key := (ne_of_compare_eq_gt above).symm
            simp [different]
          · rw [lookup_cons_of_ne found, lookup_cons_of_ne found, ih]

/-- An entry of an ascending list is found at its key. -/
theorem lookup_of_mem {entries : List (κ × α)} {key : κ} {value : α}
    (ascending : entries.Pairwise fun left right => compare left.1 right.1 = .lt)
    (member : (key, value) ∈ entries) : entries.lookup key = some value := by
  induction entries with
  | nil => cases member
  | cons head later ih =>
      obtain ⟨below, rest⟩ := List.pairwise_cons.mp ascending
      rcases List.mem_cons.mp member with rfl | old
      · exact List.lookup_cons_self
      · have different : key ≠ head.1 := (ne_of_compare_eq_lt (below _ old)).symm
        rw [lookup_cons_of_ne different]
        exact ih rest old

/-- A new key makes a list longer by one entry. -/
theorem length_put_of_missing {key : κ} {entries : List (κ × α)}
    (missing : entries.lookup key = none) (value : α) :
    (put key value entries).length = entries.length + 1 := by
  induction entries with
  | nil => rfl
  | cons head later ih =>
      rw [put]
      split
      · rfl
      · next same =>
          obtain ⟨first, old⟩ := head
          obtain rfl : key = first := Std.LawfulEqCmp.eq_of_compare same
          rw [List.lookup_cons_self] at missing
          cases missing
      · next above =>
          rw [lookup_cons_of_ne (ne_of_compare_eq_gt above)] at missing
          rw [List.length_cons, List.length_cons, ih missing]

variable [Std.TransOrd κ]

/-- The first key of an ascending list is missing in a list that starts above it. -/
theorem lookup_eq_none_of_lt_head {key : κ} {head : κ × α} {later : List (κ × α)}
    (below : compare key head.1 = .lt)
    (ascending : (head :: later).Pairwise fun left right => compare left.1 right.1 = .lt) :
    (head :: later).lookup key = none := by
  apply lookup_eq_none_of_lt
  intro entry member
  rcases List.mem_cons.mp member with rfl | member
  · exact below
  · exact Std.TransCmp.lt_trans below ((List.pairwise_cons.mp ascending).1 entry member)

theorem eq_of_lookup_eq {left right : List (κ × α)}
    (leftAscending : left.Pairwise fun first second => compare first.1 second.1 = .lt)
    (rightAscending : right.Pairwise fun first second => compare first.1 second.1 = .lt)
    (same : ∀ key, left.lookup key = right.lookup key) : left = right := by
  induction left generalizing right with
  | nil =>
      cases right with
      | nil => rfl
      | cons head later =>
          have found := same head.1
          rw [List.lookup_cons_self] at found
          cases found
  | cons head later ih =>
      cases right with
      | nil =>
          have found := same head.1
          rw [List.lookup_cons_self] at found
          cases found
      | cons other others =>
          match order : compare head.1 other.1 with
          | .eq =>
              have sameKey : head.1 = other.1 := Std.LawfulEqCmp.eq_of_compare order
              obtain ⟨key, value⟩ := head
              obtain ⟨_, value'⟩ := other
              cases sameKey
              have sameValue := same key
              rw [List.lookup_cons_self, List.lookup_cons_self] at sameValue
              cases sameValue
              obtain ⟨below, rest⟩ := List.pairwise_cons.mp leftAscending
              obtain ⟨below', rest'⟩ := List.pairwise_cons.mp rightAscending
              congr 1
              apply ih rest rest'
              intro other
              by_cases found : other = key
              · subst found
                rw [lookup_eq_none_of_lt below, lookup_eq_none_of_lt below']
              · have found' := same other
                rwa [lookup_cons_of_ne found, lookup_cons_of_ne found] at found'
          | .lt =>
              have found := same head.1
              rw [List.lookup_cons_self, lookup_eq_none_of_lt_head order rightAscending] at found
              cases found
          | .gt =>
              have found := same other.1
              rw [List.lookup_cons_self, lookup_eq_none_of_lt_head
                (Std.OrientedCmp.lt_of_gt order) leftAscending] at found
              cases found

end Entries

/-! ## The look-up after each operation -/

/-- No key comes twice. -/
theorem nodup_keys {κ α : Type} [Ord κ] [Std.LawfulEqOrd κ] (map : OrderedMap κ α) :
    map.keys.Nodup := by
  rw [keys, List.Nodup, List.pairwise_map]
  exact map.ascending.imp ne_of_compare_eq_lt

section Maps

variable {κ α : Type} [Ord κ] [BEq κ]

@[simp] theorem get?_empty (key : κ) : (∅ : OrderedMap κ α).get? key = none := rfl

variable [LawfulBEq κ]

theorem get?_erase (map : OrderedMap κ α) (key other : κ) :
    (map.erase key).get? other = if other == key then none else map.get? other :=
  lookup_filter_ne key other map.entries

theorem get?_erase_self (map : OrderedMap κ α) (key : κ) :
    (map.erase key).get? key = none := by
  rw [get?_erase, if_pos (by simp)]

theorem get?_erase_of_ne (map : OrderedMap κ α) {key other : κ} (different : other ≠ key) :
    (map.erase key).get? other = map.get? other := by
  rw [get?_erase, if_neg (by simpa using different)]

variable [Std.LawfulEqOrd κ] [Std.TransOrd κ]

theorem get?_insert (map : OrderedMap κ α) (key other : κ) (value : α) :
    (map.insert key value).get? other = if other == key then some value else map.get? other :=
  lookup_put key other value map.entries

@[simp] theorem get?_insert_self (map : OrderedMap κ α) (key : κ) (value : α) :
    (map.insert key value).get? key = some value := by
  rw [get?_insert, if_pos (by simp)]

theorem get?_insert_of_ne (map : OrderedMap κ α) {key other : κ} (different : other ≠ key)
    (value : α) : (map.insert key value).get? other = map.get? other := by
  rw [get?_insert, if_neg (by simpa using different)]

theorem size_insert_of_missing {map : OrderedMap κ α} {key : κ} (missing : map.get? key = none)
    (value : α) : (map.insert key value).size = map.size + 1 :=
  length_put_of_missing missing value

/-- Maps with the same look-ups are equal. -/
theorem ext_get? {left right : OrderedMap κ α} (same : ∀ key, left.get? key = right.get? key) :
    left = right := by
  obtain ⟨entries, ascending⟩ := left
  obtain ⟨entries', ascending'⟩ := right
  obtain rfl : entries = entries' := eq_of_lookup_eq ascending ascending' same
  rfl

end Maps

end OrderedMap

end KarelLint
