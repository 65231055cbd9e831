import Mathlib.Algebra.Group.Nat.Defs
import NavGraph.Text.Digit

/-!
# Numbers and their digits

A number comes back from its decimal digits, also with zeros in front of them, and a number below a
power of ten has no more digits than the power has zeros.

## Main statements

* `length_paddedDigits` - a number that fits a width fills it
* `natOfDigits_paddedDigits` - a number comes back from its padded digits
* `intText_inj` - different integers have different texts
* `exists_digitsOfNat_eq_cons` - the digits of a number other than zero do not begin with zero
-/

namespace NavGraph.Text

variable {c : Char} {digits : List Char} {width n : Nat}

theorem asciiDigit?_of_isDigit (h : c.isDigit = true) : asciiDigit? c = some (c.toNat - 48) :=
  if_pos h

/-- The values of a text of digits. -/
theorem mapM_asciiDigit? (h : ∀ c ∈ digits, c.isDigit = true) :
    digits.mapM asciiDigit? = some (digits.map (·.toNat - 48)) := by
  induction digits with
  | nil => rfl
  | cons c digits ih =>
    obtain ⟨hc, hdigits⟩ := List.forall_mem_cons.1 h
    rw [List.mapM_cons, asciiDigit?_of_isDigit hc, ih hdigits]
    rfl

theorem natOfDigits_map (soFar : Nat) (digits : List Char) :
    natOfDigits soFar (digits.map (·.toNat - 48)) = Nat.ofDigitChars 10 digits soFar := by
  induction digits generalizing soFar with
  | nil => rfl
  | cons c digits ih =>
    rw [List.map_cons, natOfDigits, ih, Nat.ofDigitChars_cons, Nat.mul_comm]
    rfl

theorem isDigit_of_mem_paddedDigits (h : c ∈ paddedDigits width n) : c.isDigit = true := by
  obtain h | h := List.mem_append.1 h
  · rw [List.eq_of_mem_replicate h]
    rfl
  · exact isDigit_of_mem_digitsOfNat h

/-- **A number that fits a width fills it** when zeros stand in front of its digits. -/
theorem length_paddedDigits (hwidth : 0 < width) (h : n < 10 ^ width) :
    (paddedDigits width n).length = width := by
  have hle : (digitsOfNat n).length ≤ width :=
    (Nat.length_toDigits_le_iff (by decide) hwidth).2 h
  rw [paddedDigits, List.length_append, List.length_replicate, Nat.sub_add_cancel hle]

/-- **A number comes back from its padded digits.** -/
theorem natOfDigits_paddedDigits (width n : Nat) :
    natOfDigits 0 ((paddedDigits width n).map (·.toNat - 48)) = n := by
  rw [natOfDigits_map, paddedDigits, Nat.ofDigitChars_append, Nat.ofDigitChars_replicate_zero,
    Nat.mul_zero]
  exact Nat.ofDigitChars_ten_toDigits

/-- **Different integers have different texts.** -/
theorem intText_inj {m n : Int} (h : intText m = intText n) : m = n := by
  have hminus : ∀ k : Nat, '-' ∉ digitsOfNat k := fun k hk => by
    have := isDigit_of_mem_digitsOfNat hk
    revert this
    decide
  unfold intText at h
  split at h <;> split at h
  · have := digitsOfNat_inj.1 (List.cons.inj h).2
    omega
  · exact absurd (h ▸ List.mem_cons_self) (hminus n.natAbs)
  · exact absurd (h ▸ List.mem_cons_self) (hminus m.natAbs)
  · have := digitsOfNat_inj.1 h
    omega

/-- **The digits of a number other than zero do not begin with zero**, by induction on the number:
its first digit is that of a tenth of it. -/
theorem exists_digitsOfNat_eq_cons (h : 0 < n) :
    ∃ c rest, digitsOfNat n = c :: rest ∧ c.toNat - 48 ≠ 0 := by
  induction n using Nat.strongRecOn with
  | ind n ih =>
    rw [digitsOfNat, Nat.toDigits_eq_if (by decide)]
    split
    · rename_i hlt
      have hall : ∀ n < 10, 0 < n → (Nat.digitChar n).toNat - 48 ≠ 0 := by decide
      exact ⟨_, [], rfl, hall n hlt h⟩
    · obtain ⟨c, rest, hdigits, hc⟩ := ih (n / 10) (by omega) (by omega)
      rw [digitsOfNat] at hdigits
      exact ⟨c, rest ++ _, by rw [hdigits]; rfl, hc⟩

end NavGraph.Text
