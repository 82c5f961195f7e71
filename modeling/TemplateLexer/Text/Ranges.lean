/-!
# Sets of code points

A set of code points is an ascending list of closed ranges, the form in which properties of
characters are tabulated. A look-up walks the list and stops at the first range that begins beyond
the code point, so that the common characters, which stand first, are found at once.
-/

namespace TemplateLexer.Text

/-- Closed ranges of code points, in ascending order and apart from each other. -/
abbrev Ranges := List (Nat × Nat)

namespace Ranges

/-- Whether `n` lies in one of the ranges. -/
def contains : Ranges → Nat → Bool
  | [], _ => false
  | (lo, hi) :: rest, n => if n < lo then false else if n ≤ hi then true else contains rest n

end Ranges

end TemplateLexer.Text
