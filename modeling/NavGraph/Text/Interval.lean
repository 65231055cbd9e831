/-!
# Intervals of code points

A character property of the Unicode standard is written as the ascending list of the intervals
of code points that have it.

## Main definitions

* `Intervals` - ascending lists of closed intervals
* `Intervals.contains` - membership, which stops at the first interval above the code point
-/

namespace NavGraph.Text

/-- Closed intervals of code points in ascending order. -/
abbrev Intervals := List (Nat × Nat)

/-- Whether a code point lies in one of the intervals.  The list ascends, so an interval that
starts above the code point ends the search. -/
def Intervals.contains : Intervals → Nat → Bool
  | [], _ => false
  | (lo, hi) :: rest, n => if n < lo then false else n ≤ hi || contains rest n

@[simp] theorem Intervals.contains_nil (n : Nat) : Intervals.contains [] n = false := rfl

theorem Intervals.contains_cons (lo hi n : Nat) (rest : Intervals) :
    Intervals.contains ((lo, hi) :: rest) n =
      if n < lo then false else (n ≤ hi || Intervals.contains rest n) := rfl

end NavGraph.Text
