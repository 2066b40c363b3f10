/-!
# Sets of code points

A property of characters is a table of ranges in ascending order. Membership walks the table and
stops at the first range beyond the code point.
-/
namespace StyleObject.Unicode

/-- The code points from `first` to `last`, both included. -/
structure Range where
  first : Nat
  last : Nat
  deriving DecidableEq, Repr

/-- Whether the ascending ranges hold `n`. -/
def covers : List Range → Nat → Bool
  | [], _ => false
  | r :: rs, n => if n < r.first then false else n ≤ r.last || covers rs n

theorem covers_cons (r : Range) (rs : List Range) (n : Nat) :
    covers (r :: rs) n = if n < r.first then false else n ≤ r.last || covers rs n := rfl

end StyleObject.Unicode
