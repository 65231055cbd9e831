/-!
# Decimal digits

Decimal digits of every script, and integers written with them.

## Main definitions

* `digitValue?` - the value of a decimal digit
* `natOfDigits`, `digitsOfNat` - a number and its decimal digits

## Main statements

* `digitsOfNat_inj` - different numbers have different digits
-/

namespace NavGraph.Text

/-- The digit zero of each script that has decimal digits; the other nine follow it. -/
def zeroDigits : List Nat :=
  [0x30, 0x660, 0x6f0, 0x7c0, 0x966, 0x9e6, 0xa66, 0xae6, 0xb66, 0xbe6, 0xc66, 0xce6, 0xd66,
   0xde6, 0xe50, 0xed0, 0xf20, 0x1040, 0x1090, 0x17e0, 0x1810, 0x1946, 0x19d0, 0x1a80, 0x1a90,
   0x1b50, 0x1bb0, 0x1c40, 0x1c50, 0xa620, 0xa8d0, 0xa900, 0xa9d0, 0xa9f0, 0xaa50, 0xabf0, 0xff10,
   0x104a0, 0x10d30, 0x11066, 0x110f0, 0x11136, 0x111d0, 0x112f0, 0x11450, 0x114d0, 0x11650,
   0x116c0, 0x11730, 0x118e0, 0x11950, 0x11c50, 0x11d50, 0x11da0, 0x16a60, 0x16ac0, 0x16b50,
   0x1d7ce, 0x1d7d8, 0x1d7e2, 0x1d7ec, 0x1d7f6, 0x1e140, 0x1e2f0, 0x1e950, 0x1fbf0]

/-- The value of an ASCII digit. -/
def asciiDigit? (c : Char) : Option Nat :=
  if c.isDigit then some (c.toNat - 48) else none

/-- The value of a decimal digit of any script. -/
def digitValue? (c : Char) : Option Nat :=
  (zeroDigits.find? fun base => base ≤ c.toNat && c.toNat ≤ base + 9).map (c.toNat - ·)

/-- The number that a list of digit values writes, after the digits read so far. -/
def natOfDigits (soFar : Nat) : List Nat → Nat
  | [] => soFar
  | d :: rest => natOfDigits (soFar * 10 + d) rest

/-- Decimal digits of a number, as characters. -/
def digitsOfNat (n : Nat) : List Char := Nat.toDigits 10 n

/-- Decimal digits with zeros in front up to a width. -/
def paddedDigits (width n : Nat) : List Char :=
  let digits := digitsOfNat n
  List.replicate (width - digits.length) '0' ++ digits

/-- Decimal form of an integer. -/
def intText (n : Int) : List Char :=
  if n < 0 then '-' :: digitsOfNat n.natAbs else digitsOfNat n.natAbs

/-- Lower-case hexadecimal digits with zeros in front up to a width. -/
def hexDigits (width n : Nat) : List Char :=
  let digits := Nat.toDigits 16 n
  List.replicate (width - digits.length) '0' ++ digits

/-- Different numbers have different digits. -/
theorem digitsOfNat_inj {m n : Nat} : digitsOfNat m = digitsOfNat n ↔ m = n := by
  refine ⟨fun h => ?_, congrArg digitsOfNat⟩
  unfold digitsOfNat at h
  calc m = Nat.ofDigitChars 10 (Nat.toDigits 10 m) 0 := Nat.ofDigitChars_ten_toDigits.symm
    _ = Nat.ofDigitChars 10 (Nat.toDigits 10 n) 0 := by rw [h]
    _ = n := Nat.ofDigitChars_ten_toDigits

theorem isDigit_of_mem_digitsOfNat {n : Nat} {c : Char} (h : c ∈ digitsOfNat n) :
    c.isDigit = true :=
  Nat.isDigit_of_mem_toDigits (by decide) (by decide) h

end NavGraph.Text
