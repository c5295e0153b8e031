/-! Sets of characters given as intervals of code points. -/

set_option autoImplicit false

namespace KarelLint.Text

/-- An interval of code points. Both ends belong to it. -/
structure Interval where
  first : Nat
  last : Nat
  deriving DecidableEq, Repr

/-- Membership in a union of disjoint intervals listed in ascending order. The
search ends at the first interval that starts beyond the code point, because no
later one can hold it. -/
def covers : List Interval → Nat → Bool
  | [], _ => false
  | interval :: later, point =>
      if point < interval.first then false
      else if point ≤ interval.last then true
      else covers later point

end KarelLint.Text
