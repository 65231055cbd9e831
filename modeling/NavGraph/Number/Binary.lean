/-!
# Binary fractions

What a float holds, as exact integers: the sign, and for a finite one the numbers `m` and `q` of
its magnitude `m * 2 ^ q`.  Texts of floats are computed from these, so that no rounding but the
intended one takes place.

## Main definitions

* `Binary` - a float taken apart
* `Binary.ofFloat` - take a float apart
* `floorQuotient`, `nearestQuotient` - `m * 2 ^ q / 10 ^ k`, rounded
-/

namespace NavGraph.Number

/-- A float taken apart. -/
inductive Binary where
  /-- Not a number. -/
  | undefined
  /-- An infinity. -/
  | infinite (negative : Bool)
  /-- The number of magnitude `mantissa * 2 ^ exponent`. -/
  | finite (negative : Bool) (mantissa : Nat) (exponent : Int)
  deriving DecidableEq, Repr

/-- The number of fractions that a float can have between two powers of two: the 52nd power of
two. -/
def fractionCount : Nat := 0x10000000000000

/-- Take a float apart into sign, mantissa and exponent. -/
def Binary.ofFloat (x : Float) : Binary :=
  let bits := x.toBits.toNat
  let negative := bits / fractionCount / 2048 == 1
  let exponent := bits / fractionCount % 2048
  let fraction := bits % fractionCount
  if exponent = 2047 then
    if fraction = 0 then .infinite negative else .undefined
  else if exponent = 0 then .finite negative fraction (-1074)
  else .finite negative (fraction + fractionCount) (Int.ofNat exponent - 1075)

/-- `m * 2 ^ q / 10 ^ k` as a fraction of naturals. -/
def scaledFraction (m : Nat) (q k : Int) : Nat × Nat :=
  (m * Nat.pow 2 q.toNat * Nat.pow 10 (-k).toNat, Nat.pow 2 (-q).toNat * Nat.pow 10 k.toNat)

/-- `m * 2 ^ q / 10 ^ k`, rounded down. -/
def floorQuotient (m : Nat) (q k : Int) : Nat :=
  let (num, den) := scaledFraction m q k
  num / den

/-- A fraction rounded to the nearest natural, halves to the even one. -/
def nearestNat (num den : Nat) : Nat :=
  let below := num / den
  let twice := 2 * (num % den)
  if twice < den then below
  else if twice = den then below + below % 2
  else below + 1

/-- `m * 2 ^ q / 10 ^ k`, rounded to the nearest natural, halves to the even one. -/
def nearestQuotient (m : Nat) (q k : Int) : Nat :=
  let (num, den) := scaledFraction m q k
  nearestNat num den

end NavGraph.Number
