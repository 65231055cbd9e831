import NavGraph.Number.Reading
import NavGraph.Proofs.Text.Trim

/-!
# Integers in headers

Which texts a header may write an integer in, as a grammar: blanks around it, a sign, and digits of
any script, with single underscores between them and not too many of them.  The reader accepts
exactly these texts, and each of them writes one integer.

## Main definitions

* `IsDigits` - digits with single underscores between them, and their values
* `IsSign` - a sign, and whether it is a minus
* `IsInteger` - a text that writes an integer

## Main statements

* `digitRun?_eq_some_iff` - the reader of digits accepts exactly digits
* `headerInt?_eq_some_iff` - the reader of integers accepts exactly integers
-/

namespace NavGraph.Number

open Text

/-- **Digits** of any script with single underscores between them, and their values. -/
inductive IsDigits : List Char → List Nat → Prop where
  | single {c : Char} {d : Nat} (h : digitValue? c = some d) : IsDigits [c] [d]
  | cons {c : Char} {d : Nat} {text : List Char} {digits : List Nat} (h : digitValue? c = some d)
      (later : IsDigits text digits) : IsDigits (c :: text) (d :: digits)
  | underscore {c : Char} {d : Nat} {text : List Char} {digits : List Nat}
      (h : digitValue? c = some d) (later : IsDigits text digits) :
      IsDigits (c :: '_' :: text) (d :: digits)

/-- A **sign**, which may be left out, and whether it is a minus. -/
inductive IsSign : List Char → Bool → Prop where
  | none : IsSign [] false
  | plus : IsSign ['+'] false
  | minus : IsSign ['-'] true

/-- A text **writes** an integer: blanks, a sign, digits, and blanks again. -/
inductive IsInteger (text : String) : Int → Prop where
  | mk {before sign body after : List Char} {negative : Bool} {digits : List Nat}
      (htext : text.toList = before ++ (sign ++ body) ++ after)
      (hbefore : ∀ c ∈ before, isWhiteSpaceProperty c = true)
      (hafter : ∀ c ∈ after, isWhiteSpaceProperty c = true) (hsign : IsSign sign negative)
      (hbody : IsDigits body digits) (hcount : digits.length ≤ maxDigits) :
      IsInteger text (signedInt negative digits)

variable {c : Char} {d : Nat} {text body : List Char} {digits : List Nat}

/-! ### Digits -/

theorem exists_zeroDigit (h : digitValue? c = some d) :
    ∃ base ∈ zeroDigits, ∃ i < 10, c = Char.ofNat (base + i) := by
  unfold digitValue? at h
  obtain ⟨base, hfound, -⟩ := Option.map_eq_some_iff.1 h
  have hbounds := List.find?_some hfound
  simp only [Bool.and_eq_true, decide_eq_true_eq] at hbounds
  refine ⟨base, List.mem_of_find?_eq_some hfound, c.toNat - base, by omega, ?_⟩
  rw [Nat.add_sub_cancel' hbounds.1, Char.ofNat_toNat]

/-- A digit is neither blank nor a sign nor an underscore. -/
theorem not_blank_of_digitValue? (h : digitValue? c = some d) :
    isWhiteSpaceProperty c = false ∧ c ≠ '-' ∧ c ≠ '+' ∧ c ≠ '_' := by
  have hall : ∀ base ∈ zeroDigits, ∀ i < 10,
      isWhiteSpaceProperty (Char.ofNat (base + i)) = false ∧ Char.ofNat (base + i) ≠ '-' ∧
        Char.ofNat (base + i) ≠ '+' ∧ Char.ofNat (base + i) ≠ '_' := by
    decide +kernel
  obtain ⟨base, hbase, i, hi, rfl⟩ := exists_zeroDigit h
  exact hall base hbase i hi

theorem IsDigits.exists_cons (h : IsDigits text digits) :
    ∃ c d rest, text = c :: rest ∧ digitValue? c = some d := by
  cases h with
  | single h => exact ⟨_, _, _, rfl, h⟩
  | cons h _ => exact ⟨_, _, _, rfl, h⟩
  | underscore h _ => exact ⟨_, _, _, rfl, h⟩

/-- Digits end with a digit. -/
theorem IsDigits.exists_getLast (h : IsDigits text digits) :
    ∃ c d, text.getLast? = some c ∧ digitValue? c = some d := by
  induction h with
  | single h => exact ⟨_, _, rfl, h⟩
  | cons h later ih =>
    obtain ⟨c, d, hlast, hd⟩ := ih
    exact ⟨c, d, by rw [List.getLast?_cons, hlast]; rfl, hd⟩
  | underscore h later ih =>
    obtain ⟨c, d, hlast, hd⟩ := ih
    exact ⟨c, d, by rw [List.getLast?_cons, List.getLast?_cons, hlast]; rfl, hd⟩

theorem digitRun?_of_isDigits (h : IsDigits text digits) (afterDigit : Bool) :
    digitRun? digitValue? afterDigit text = some digits := by
  have hunderscore : digitValue? '_' = none := by decide
  induction h generalizing afterDigit with
  | single h => simp [digitRun?, h]
  | cons h _ ih => simp [digitRun?, h, ih]
  | underscore h _ ih => simp [digitRun?, h, hunderscore, ih]

/-- What is read behind a digit is nothing more, or digits, or digits behind an underscore. -/
theorem isDigits_of_digitRun? {afterDigit : Bool}
    (h : digitRun? digitValue? afterDigit text = some digits) :
    IsDigits text digits ∨ afterDigit = true ∧ (text = [] ∧ digits = [] ∨
      ∃ later, text = '_' :: later ∧ IsDigits later digits) := by
  induction text generalizing afterDigit digits with
  | nil =>
    cases afterDigit with
    | false => cases h
    | true =>
      cases h
      exact .inr ⟨rfl, .inl ⟨rfl, rfl⟩⟩
  | cons c text ih =>
    rw [digitRun?] at h
    cases hvalue : digitValue? c with
    | some d =>
      rw [hvalue] at h
      obtain ⟨ds, hds, rfl⟩ := Option.map_eq_some_iff.1 h
      obtain hdigits | ⟨-, ⟨rfl, rfl⟩ | ⟨later, rfl, hdigits⟩⟩ := ih hds
      · exact .inl (.cons hvalue hdigits)
      · exact .inl (.single hvalue)
      · exact .inl (.underscore hvalue hdigits)
    | none =>
      rw [hvalue] at h
      dsimp only at h
      split at h
      · rename_i hmore
        rw [Bool.and_eq_true, beq_iff_eq] at hmore
        obtain ⟨rfl, hafter⟩ := hmore
        obtain hdigits | ⟨⟨⟩, -⟩ := ih h
        exact .inr ⟨hafter, .inr ⟨text, rfl, hdigits⟩⟩
      · cases h

/-- **The reader of digits accepts exactly digits.** -/
theorem digitRun?_eq_some_iff :
    digitRun? digitValue? false text = some digits ↔ IsDigits text digits := by
  refine ⟨fun h => ?_, fun h => digitRun?_of_isDigits h false⟩
  obtain hdigits | ⟨⟨⟩, -⟩ := isDigits_of_digitRun? h
  exact hdigits

/-! ### Integers -/

theorem exists_isSign (text : List Char) : ∃ sign, IsSign sign (splitSign text).1 ∧
    text = sign ++ (splitSign text).2 := by
  unfold splitSign
  split
  · exact ⟨['-'], .minus, rfl⟩
  · exact ⟨['+'], .plus, rfl⟩
  · exact ⟨[], .none, rfl⟩

theorem splitSign_append {sign : List Char} {negative : Bool} (hsign : IsSign sign negative)
    (hbody : IsDigits body digits) : splitSign (sign ++ body) = (negative, body) := by
  obtain ⟨c, d, rest, rfl, hd⟩ := hbody.exists_cons
  obtain ⟨-, hminus, hplus, -⟩ := not_blank_of_digitValue? hd
  cases hsign with
  | plus => rfl
  | minus => rfl
  | none =>
    unfold splitSign
    split
    · rename_i heq
      exact absurd (List.cons.inj heq).1 hminus
    · rename_i heq
      exact absurd (List.cons.inj heq).1 hplus
    · rfl

/-- A sign and digits are not trimmed. -/
theorem ends_of_isDigits {sign : List Char} {negative : Bool} (hsign : IsSign sign negative)
    (hbody : IsDigits body digits) : sign ++ body ≠ [] ∧
      (∀ c ∈ (sign ++ body).head?, isWhiteSpaceProperty c = false) ∧
      ∀ c ∈ (sign ++ body).getLast?, isWhiteSpaceProperty c = false := by
  obtain ⟨first, d, rest, rfl, hd⟩ := hbody.exists_cons
  obtain ⟨last, e, hlast, he⟩ := hbody.exists_getLast
  refine ⟨by simp, ?_, ?_⟩
  · have hfirst := (not_blank_of_digitValue? hd).1
    cases hsign <;> rintro c ⟨⟩
    · exact hfirst
    · decide
    · decide
  · rw [List.getLast?_append, hlast]
    rintro c ⟨⟩
    exact (not_blank_of_digitValue? he).1

/-- **The reader of integers accepts exactly integers.** -/
theorem headerInt?_eq_some_iff {text : String} {n : Int} :
    headerInt? text = some n ↔ IsInteger text n := by
  constructor
  · intro h
    unfold headerInt? at h
    obtain ⟨before, after, htext, hbefore, hafter⟩ :=
      exists_eq_trimWhile isWhiteSpaceProperty text.toList
    obtain ⟨sign, hsign, hcore⟩ := exists_isSign (trimWhile isWhiteSpaceProperty text.toList)
    dsimp only at h
    split at h
    · rename_i digits hdigits
      split at h
      · rename_i hcount
        cases h
        rw [hcore] at htext
        exact .mk htext hbefore hafter hsign (digitRun?_eq_some_iff.1 hdigits) hcount
      · cases h
    · cases h
  · rintro ⟨htext, hbefore, hafter, hsign, hbody, hcount⟩
    obtain ⟨hne, hhead, hlast⟩ := ends_of_isDigits hsign hbody
    rw [headerInt?, htext, trimWhile_append hne hbefore hafter hhead hlast,
      splitSign_append hsign hbody]
    simp [digitRun?_eq_some_iff.2 hbody, hcount]

end NavGraph.Number
