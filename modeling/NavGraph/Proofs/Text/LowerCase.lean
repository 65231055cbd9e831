import NavGraph.Text.Class
import NavGraph.Text.LetterCase

/-!
# Delimiters and lower case

Some characters mean something in a link target: blanks around it do not count, slashes stand
between its segments, and a question mark or a number sign ends its path.  Others mean something in
the name of a directory: brackets stand around the parameters of a route.  Lower-casing a text
brings in none of them, whatever scripts it is written in, and no word character is a delimiter.

## Main definitions

* `isDelimiter` - characters that mean something in a link target
* `lowerAvoids` - characters that are the lower-case form of no other

## Main statements

* `not_isDelimiter_of_isWord` - word characters are none
* `mem_of_mem_lowerFrom` - an avoided character of a lower-cased text is one of the text
* `mem_of_mem_lower`, `mem_of_bracket_mem_lower`, `mem_of_colon_mem_lower` - so are delimiters,
  brackets and colons
* `lower_eq_nil` - only the empty text is empty in lower case

## Design notes

The tables are compared with the code points that are to be avoided, which are few: a run of the
table is passed over in one step however long it is, since its images are a run too.
-/

namespace NavGraph.Text

variable {c : Char} {text : List Char}

/-- Characters that mean something in a link target. -/
def isDelimiter (c : Char) : Bool := isBlank c || c == '/' || c == '?' || c == '#'

/-- Code points of the delimiters. -/
def delimiters : List Nat :=
  List.range' 9 5 ++ List.range' 28 5 ++ [35, 47, 63, 0x85, 0xa0, 0x1680] ++
    List.range' 0x2000 11 ++ [0x2028, 0x2029, 0x202f, 0x205f, 0x3000]

theorem toNat_mem_delimiters (h : isDelimiter c = true) : c.toNat ∈ delimiters := by
  have hchar : ∀ {d : Char}, c = d → c.toNat = d.toNat := congrArg Char.toNat
  simp only [isDelimiter, isBlank, Bool.or_eq_true, Bool.and_eq_true, decide_eq_true_eq,
    beq_iff_eq] at h
  simp only [delimiters, List.mem_append, List.mem_range'_1, List.mem_cons, List.not_mem_nil,
    or_false]
  obtain ((h | h) | h) | h := h
  · omega
  all_goals
    have := hchar h
    simp only [Char.reduceToNat] at this
    omega

/-- Word characters are no delimiters. -/
theorem not_isDelimiter_of_isWord (h : isWord c = true) : isDelimiter c = false := by
  have hnone : ∀ n ∈ delimiters, isWord (Char.ofNat n) = false := by decide +kernel
  rw [Bool.eq_false_iff]
  intro hdelimiter
  have hother := hnone c.toNat (toNat_mem_delimiters hdelimiter)
  rw [Char.ofNat_toNat, h] at hother
  cases hother

/-! ### Lower case -/

/-- What is no code point makes the null character. -/
theorem toNat_ofNat_eq_or (n : Nat) : (Char.ofNat n).toNat = n ∨ (Char.ofNat n).toNat = 0 := by
  by_cases hvalid : n.isValidChar
  · rw [Char.ofNat, dif_pos hvalid]
    exact .inl rfl
  · rw [Char.ofNat, dif_neg hvalid]
    exact .inr rfl

/-- The image of a code point lies where the run says that it is in, if it is in one. -/
theorem lowerBeyondAscii_eq_or (n : Nat) (runs : List CaseRun) :
    lowerBeyondAscii n runs = n ∨ ∃ run ∈ runs, run.first ≤ n ∧ n ≤ run.last ∧
      lowerBeyondAscii n runs = (Int.ofNat n + run.shift).toNat := by
  induction runs with
  | nil => exact .inl rfl
  | cons run rest ih =>
    rw [lowerBeyondAscii]
    split
    · rename_i hrun
      exact .inr ⟨run, List.mem_cons_self, hrun.1, hrun.2.1, rfl⟩
    · exact ih.imp_right fun ⟨run', hmem, h⟩ => ⟨run', List.mem_cons_of_mem run hmem, h⟩

/-- Whether lower-casing gives the characters with some code points to no other character: the
special images are none of them, and neither are those that the table has. -/
def lowerAvoids (codes : List Nat) : Bool :=
  codes.all (fun d => d != 0 && d != 0x3c2 && d != 0x3c3 && d != 105 && d != 0x307) &&
    (List.range 128).all (fun n => !codes.contains (Char.ofNat n).toLower.toNat ||
      (Char.ofNat n).toLower == Char.ofNat n) &&
    lowerRuns.all fun run => codes.all fun d =>
      d < (run.first + run.shift).toNat || (run.last + run.shift).toNat < d

section

variable {codes : List Nat}

theorem special_of_lowerAvoids (h : lowerAvoids codes = true) {d : Nat} (hd : d ∈ codes) :
    d ≠ 0 ∧ d ≠ 0x3c2 ∧ d ≠ 0x3c3 ∧ d ≠ 105 ∧ d ≠ 0x307 := by
  simp only [lowerAvoids, Bool.and_eq_true, List.all_eq_true, bne_iff_ne, and_assoc] at h
  exact h.1 d hd

theorem ascii_of_lowerAvoids (h : lowerAvoids codes = true) (hc : c.toNat < 128)
    (hmem : c.toLower.toNat ∈ codes) : c.toLower = c := by
  rw [lowerAvoids, Bool.and_eq_true, Bool.and_eq_true, List.all_eq_true, List.all_eq_true] at h
  have hsmall := h.1.2 c.toNat (List.mem_range.2 hc)
  rw [Char.ofNat_toNat] at hsmall
  simpa [hmem] using hsmall

/-- No run of the table has an avoided character among its images. -/
theorem runs_of_lowerAvoids (h : lowerAvoids codes = true) :
    ∀ run ∈ lowerRuns, ∀ d ∈ codes,
      d < (run.first + run.shift).toNat ∨ (run.last + run.shift).toNat < d := by
  rw [lowerAvoids, Bool.and_eq_true] at h
  simpa only [List.all_eq_true, Bool.or_eq_true, decide_eq_true_eq] using h.2

/-- A character whose lower-case form is avoided is its own. -/
theorem lowerChar_eq_self (h : lowerAvoids codes = true) (hmem : (lowerChar c).toNat ∈ codes) :
    lowerChar c = c := by
  unfold lowerChar at hmem ⊢
  split at hmem
  · rename_i hascii
    rw [if_pos hascii]
    exact ascii_of_lowerAvoids h hascii hmem
  · rename_i hbeyond
    rw [if_neg hbeyond]
    obtain heq | ⟨run, hrun, hfirst, hlast, heq⟩ := lowerBeyondAscii_eq_or c.toNat lowerRuns
    · rw [heq, Char.ofNat_toNat]
    · obtain hvalid | hzero := toNat_ofNat_eq_or (lowerBeyondAscii c.toNat lowerRuns)
      · rw [hvalid] at hmem
        have havoid := runs_of_lowerAvoids h run hrun _ hmem
        simp only [Int.ofNat_eq_natCast] at heq
        omega
      · exact absurd hzero (special_of_lowerAvoids h hmem).1

/-- **Lower-casing brings in no avoided character**, by induction on the text: only a capital sigma
and the dotted capital I have images that the table does not give. -/
theorem mem_of_mem_lowerFrom (h : lowerAvoids codes = true) (hc : c.toNat ∈ codes)
    {afterCased : Bool} (hmem : c ∈ lowerFrom afterCased text) : c ∈ text := by
  induction text generalizing afterCased with
  | nil => cases hmem
  | cons d rest ih =>
    obtain ⟨-, hfinal, hsigma, hi, hdot⟩ := special_of_lowerAvoids h hc
    rw [lowerFrom] at hmem
    obtain himage | hrest := List.mem_append.1 hmem
    · split at himage
      · rw [List.mem_singleton] at himage
        split at himage
        · exact absurd (congrArg Char.toNat himage) hfinal
        · exact absurd (congrArg Char.toNat himage) hsigma
      · split at himage
        · obtain rfl | himage := List.mem_cons.1 himage
          · exact absurd rfl hi
          · rw [List.mem_singleton.1 himage] at hdot
            exact absurd rfl hdot
        · rw [List.mem_singleton] at himage
          subst himage
          rw [lowerChar_eq_self h hc]
          exact List.mem_cons_self
    · exact List.mem_cons_of_mem d (ih hrest)

end

/-- A delimiter of a lower-cased text is one of the text. -/
theorem mem_of_mem_lower (hc : isDelimiter c = true) (h : c ∈ lower text) : c ∈ text := by
  have havoids : lowerAvoids delimiters = true := by decide +kernel
  exact mem_of_mem_lowerFrom havoids (toNat_mem_delimiters hc) h

/-- A bracket of a lower-cased text is one of the text. -/
theorem mem_of_bracket_mem_lower (hc : c = '[' ∨ c = ']') (h : c ∈ lower text) : c ∈ text := by
  have havoids : lowerAvoids ['['.toNat, ']'.toNat] = true := by decide +kernel
  refine mem_of_mem_lowerFrom havoids ?_ h
  obtain rfl | rfl := hc
  · exact List.mem_cons_self
  · exact List.mem_cons_of_mem _ List.mem_cons_self

/-- A colon of a lower-cased text is one of the text. -/
theorem mem_of_colon_mem_lower (h : ':' ∈ lower text) : ':' ∈ text := by
  have havoids : lowerAvoids [':'.toNat] = true := by decide +kernel
  exact mem_of_mem_lowerFrom havoids List.mem_cons_self h

@[simp] theorem lower_eq_nil : lower text = [] ↔ text = [] := by
  constructor
  · intro h
    cases text with
    | nil => rfl
    | cons c rest =>
      rw [lower, lowerFrom, List.append_eq_nil_iff] at h
      have himage := h.1
      split at himage
      · cases himage
      · split at himage <;> cases himage
  · rintro rfl
    rfl

end NavGraph.Text
