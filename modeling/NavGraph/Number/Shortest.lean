import NavGraph.Number.Binary
import NavGraph.Text.Digit

/-!
# Shortest decimal text of a float

A float is written with the fewest decimal digits that read back as the same float; of several
such decimals the nearest to it is taken.

## Main definitions

* `shortestDecimal` - the digits `c` and the exponent `k` of that decimal `c * 10 ^ k`
* `floatText` - its text: positional from `1e-4` up to below `1e16`, else with an exponent

## Design notes

All reals between two points half way to the neighbouring floats read as the float, these two
points only if its mantissa is even.  With all numbers multiplied by four the points are whole.
On each decimal grid, from coarse to fine, only the two points around the float itself can be
nearest, so only they are tried.
-/

namespace NavGraph.Number

/-- Whether `c * 10 ^ k` reads as the float `m * 2 ^ q`. -/
def readsAs (m : Nat) (q : Int) (c : Nat) (k : Int) : Bool :=
  let narrowBelow := m = fractionCount ∧ q ≠ -1074
  let low := 4 * m - if narrowBelow then 1 else 2
  let high := 4 * m + 2
  let (lowNum, lowDen) := scaledFraction low (q - 2) k
  let (highNum, highDen) := scaledFraction high (q - 2) k
  if m % 2 = 0 then lowNum ≤ c * lowDen && c * highDen ≤ highNum
  else lowNum < c * lowDen && c * highDen < highNum

/-- The decimal exponent of the first digit of `m * 2 ^ q`, for a positive `m`. -/
def leadingExponent (m : Nat) (q : Int) : Int :=
  let whole := floorQuotient m q 0
  if 0 < whole then Int.ofNat (Text.digitsOfNat whole).length - 1
  else
    match (List.range 400).find? fun j => 0 < floorQuotient m q (-Int.ofNat j) with
    | some j => -Int.ofNat j
    | none => -400

/-- The decimal of at most `n` digits next to the float that reads back as it. -/
def decimalOfDigits? (m : Nat) (q : Int) (n : Nat) : Option (Nat × Int) :=
  let k := leadingExponent m q - Int.ofNat n + 1
  let below := floorQuotient m q k
  match readsAs m q below k, readsAs m q (below + 1) k with
  | true, true => some (nearestQuotient m q k, k)
  | true, false => some (below, k)
  | false, true => some (below + 1, k)
  | false, false => none

/-- The shortest decimal `c * 10 ^ k` that reads as the float `m * 2 ^ q`, for a positive `m`.
Seventeen digits always suffice. -/
def shortestDecimal (m : Nat) (q : Int) : Nat × Int :=
  ((List.range 17).findSome? fun n => decimalOfDigits? m q (n + 1)).getD (m, q)

/-- Text of the decimal with the given digits whose point stands behind the first `point` of
them. -/
def positionalText (digits : List Char) (point : Int) : List Char :=
  if point ≤ 0 then
    ['0', '.'] ++ List.replicate (-point).toNat '0' ++ digits
  else if digits.length ≤ point.toNat then
    digits ++ List.replicate (point.toNat - digits.length) '0' ++ ['.', '0']
  else
    digits.take point.toNat ++ '.' :: digits.drop point.toNat

/-- Text of the decimal with one digit before the point and an exponent of at least two
digits. -/
def exponentText (digits : List Char) (exponent : Int) : List Char :=
  let fraction := match digits.drop 1 with
    | [] => []
    | rest => '.' :: rest
  digits.take 1 ++ fraction ++ ['e', if exponent < 0 then '-' else '+'] ++
    Text.paddedDigits 2 exponent.natAbs

/-- The shortest decimal text of a float. -/
def floatText (x : Float) : String :=
  String.ofList <|
    match Binary.ofFloat x with
    | .undefined => ['n', 'a', 'n']
    | .infinite negative => (if negative then ['-'] else []) ++ ['i', 'n', 'f']
    | .finite negative 0 _ => (if negative then ['-'] else []) ++ ['0', '.', '0']
    | .finite negative m q =>
        let (c, k) := shortestDecimal m q
        let digits := Text.digitsOfNat c
        let point := Int.ofNat digits.length + k
        let significant := (digits.reverse.dropWhile (· == '0')).reverse
        (if negative then ['-'] else []) ++
          if -4 < point ∧ point ≤ 16 then positionalText significant point
          else exponentText significant (point - 1)

/-- A float with one digit behind the point, the nearest such decimal, halves to the even one. -/
def oneDecimalText (x : Float) : String :=
  String.ofList <|
    match Binary.ofFloat x with
    | .undefined => ['n', 'a', 'n']
    | .infinite negative => (if negative then ['-'] else []) ++ ['i', 'n', 'f']
    | .finite negative m q =>
        let tenths := nearestQuotient m q (-1)
        (if negative then ['-'] else []) ++ Text.digitsOfNat (tenths / 10) ++
          '.' :: Text.digitsOfNat (tenths % 10)

end NavGraph.Number
