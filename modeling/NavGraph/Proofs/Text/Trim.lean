import NavGraph.Text.Trim

/-!
# Ends and parts of texts

What trimming leaves of a text, which parts splitting gives, and what a text is like that is joined
from parts.

## Main statements

* `takeWhile_append`, `dropWhile_append` - a run of a class ends where something else stands behind
  it
* `trimEndWhile_append_cons` - trimming stops at the last character that is not trimmed
* `trimWhile_append`, `trimWhile_eq_nil_iff` - what trimming uncovers, and when it leaves nothing
* `prefix_of_prefix_append_cons` - what letters begin that stand before another character
* `append_cons_inj` - a run of a class ends in one way only
* `split_append_cons`, `getLast?_split` - the parts around a separator, and the last part
* `mem_join`, `getLast?_join` - the characters of a joined text, and its last one
-/

namespace NavGraph.Text

variable {p : Char → Bool} {c separator : Char} {text part : List Char}

/-! ### Runs -/

/-- A run of a class ends where something else stands behind it, or the text ends. -/
theorem takeWhile_append {front rest : List Char} (hfront : ∀ c ∈ front, p c = true)
    (hrest : ∀ c ∈ rest.head?, p c = false) : (front ++ rest).takeWhile p = front := by
  rw [List.takeWhile_append_of_pos hfront]
  cases rest with
  | nil => rw [List.takeWhile_nil, List.append_nil]
  | cons c rest => rw [List.takeWhile_cons_of_neg (by simp [hrest c rfl]), List.append_nil]

/-- What stands behind a run of a class is what is left without the run. -/
theorem dropWhile_append {front rest : List Char} (hfront : ∀ c ∈ front, p c = true)
    (hrest : ∀ c ∈ rest.head?, p c = false) : (front ++ rest).dropWhile p = rest := by
  rw [List.dropWhile_append_of_pos hfront]
  cases rest with
  | nil => rfl
  | cons c rest => exact List.dropWhile_cons_of_neg (by simp [hrest c rfl])

/-! ### Trimming -/

theorem trimEndWhile_append_cons (hc : p c = false) (before after : List Char) :
    trimEndWhile p (before ++ c :: after) = before ++ c :: trimEndWhile p after := by
  induction before with
  | nil =>
    rw [List.nil_append, trimEndWhile]
    cases trimEndWhile p after with
    | nil => simp [hc]
    | cons d kept => rfl
  | cons b before ih =>
    rw [List.cons_append, trimEndWhile, ih]
    cases before <;> rfl

/-- Nothing is trimmed off a text that has nothing to trim. -/
theorem trimEndWhile_append {front : List Char} (h : ∀ c ∈ front, p c = false)
    (after : List Char) : trimEndWhile p (front ++ after) = front ++ trimEndWhile p after := by
  induction front with
  | nil => rfl
  | cons c front ih =>
    obtain ⟨hc, hfront⟩ := List.forall_mem_cons.1 h
    have hkept := trimEndWhile_append_cons hc [] (front ++ after)
    rw [List.nil_append, List.nil_append] at hkept
    rw [List.cons_append, hkept, ih hfront, List.cons_append]

theorem trimEndWhile_eq_self (h : ∀ c ∈ text, p c = false) : trimEndWhile p text = text := by
  have hkept := trimEndWhile_append h []
  rwa [List.append_nil, trimEndWhile_nil, List.append_nil] at hkept

theorem trimEndWhile_eq_nil (h : ∀ c ∈ text, p c = true) : trimEndWhile p text = [] := by
  induction text with
  | nil => rfl
  | cons c rest ih =>
    obtain ⟨hc, hrest⟩ := List.forall_mem_cons.1 h
    rw [trimEndWhile, ih hrest]
    exact if_pos hc

/-- What is trimmed off the end of a text is trimmed off whatever stands in front of it. -/
theorem trimEndWhile_append_of_all {back : List Char} (h : ∀ c ∈ back, p c = true) :
    trimEndWhile p (text ++ back) = trimEndWhile p text := by
  induction text with
  | nil => exact trimEndWhile_eq_nil h
  | cons c text ih => rw [List.cons_append, trimEndWhile, trimEndWhile, ih]

/-- Trimming keeps the beginning of a text. -/
theorem prefix_trimEndWhile : trimEndWhile p text <+: text := by
  induction text with
  | nil => exact List.prefix_refl []
  | cons c text ih =>
    rw [trimEndWhile]
    cases hkept : trimEndWhile p text with
    | nil =>
      dsimp only
      split
      · exact List.nil_prefix
      · exact (List.prefix_cons_inj c).2 List.nil_prefix
    | cons d kept => exact (List.prefix_cons_inj c).2 (hkept ▸ ih)

/-- Blanks are trimmed off behind a text without any, not in it. -/
theorem trim_append {stem rest : List Char} (hne : stem ≠ []) (h : ∀ c ∈ stem, isBlank c = false) :
    trim (stem ++ rest) = stem ++ trimEndWhile isBlank rest := by
  have hstart : (stem ++ rest).dropWhile isBlank = stem ++ rest := by
    cases stem with
    | nil => exact absurd rfl hne
    | cons c stem =>
      rw [List.cons_append, List.dropWhile_cons_of_neg]
      simpa using h c List.mem_cons_self
  rw [trim, trimWhile, hstart, trimEndWhile_append h]

/-- Nothing is trimmed off a text without blanks. -/
theorem trim_eq_self (h : ∀ c ∈ text, isBlank c = false) : trim text = text := by
  by_cases hne : text = []
  · rw [hne]
    rfl
  · have htrim : trim (text ++ []) = text ++ trimEndWhile isBlank [] := trim_append hne h
    rwa [List.append_nil, trimEndWhile_nil, List.append_nil] at htrim

/-- What is trimmed off a text is a run of the character that is trimmed. -/
theorem exists_eq_trimEndWhile_append (c : Char) (text : List Char) :
    ∃ count, text = trimEndWhile (· == c) text ++ List.replicate count c := by
  induction text with
  | nil => exact ⟨0, rfl⟩
  | cons d text ih =>
    obtain ⟨count, hcount⟩ := ih
    rw [trimEndWhile]
    cases hkept : trimEndWhile (· == c) text with
    | nil =>
      rw [hkept, List.nil_append] at hcount
      dsimp only
      split
      · rename_i hd
        refine ⟨count + 1, ?_⟩
        rw [List.nil_append, List.replicate_succ, ← hcount, beq_iff_eq.1 hd]
      · exact ⟨count, by rw [← hcount]; rfl⟩
    | cons e kept => exact ⟨count, by rw [List.cons_append, ← hkept, ← hcount]⟩

/-- What is trimmed off the end of a text all satisfies the test. -/
theorem exists_eq_trimEndWhile (p : Char → Bool) (text : List Char) :
    ∃ after, text = trimEndWhile p text ++ after ∧ ∀ c ∈ after, p c = true := by
  induction text with
  | nil => exact ⟨[], rfl, nofun⟩
  | cons c text ih =>
    obtain ⟨after, htext, hafter⟩ := ih
    rw [trimEndWhile]
    cases hkept : trimEndWhile p text with
    | nil =>
      rw [hkept, List.nil_append] at htext
      dsimp only
      split
      · rename_i hc
        exact ⟨c :: text, rfl, List.forall_mem_cons.2 ⟨hc, htext ▸ hafter⟩⟩
      · exact ⟨text, rfl, htext ▸ hafter⟩
    | cons d kept =>
      rw [hkept] at htext
      exact ⟨after, congrArg (c :: ·) htext, hafter⟩

/-- What is trimmed off both ends of a text all satisfies the test. -/
theorem exists_eq_trimWhile (p : Char → Bool) (text : List Char) :
    ∃ before after, text = before ++ trimWhile p text ++ after ∧
      (∀ c ∈ before, p c = true) ∧ ∀ c ∈ after, p c = true := by
  obtain ⟨after, htext, hafter⟩ := exists_eq_trimEndWhile p (text.dropWhile p)
  refine ⟨text.takeWhile p, after, ?_, List.all_eq_true.1 List.all_takeWhile, hafter⟩
  rw [trimWhile, List.append_assoc, ← htext, List.takeWhile_append_dropWhile]

theorem getLast?_trimEndWhile : ∀ c ∈ (trimEndWhile p text).getLast?, p c = false := by
  induction text with
  | nil => exact nofun
  | cons c text ih =>
    rw [trimEndWhile]
    cases hkept : trimEndWhile p text with
    | nil =>
      dsimp only
      split
      · exact nofun
      · rename_i hc
        rintro _ ⟨⟩
        exact Bool.eq_false_iff.2 hc
    | cons d kept =>
      rw [hkept] at ih
      rwa [List.getLast?_cons_cons]

theorem head?_trimWhile : ∀ c ∈ (trimWhile p text).head?, p c = false := by
  intro c hc
  obtain ⟨rest, hrest⟩ := List.head?_eq_some_iff.1 hc
  have hstart : (text.dropWhile p).head? = some c := by
    obtain ⟨after, hafter⟩ : trimWhile p text <+: text.dropWhile p := prefix_trimEndWhile
    rw [← hafter, hrest]
    rfl
  have hfirst := List.head?_dropWhile_not p text
  rw [hstart] at hfirst
  simpa using hfirst

/-- Nothing is left of a text exactly if all of it is trimmed. -/
theorem trimWhile_eq_nil_iff : trimWhile p text = [] ↔ ∀ c ∈ text, p c = true := by
  constructor
  · intro h
    obtain ⟨before, after, htext, hbefore, hafter⟩ := exists_eq_trimWhile p text
    rw [h, List.append_nil] at htext
    rw [htext]
    exact List.forall_mem_append.2 ⟨hbefore, hafter⟩
  · intro h
    have hdrop : (text ++ []).dropWhile p = [] := dropWhile_append h nofun
    rw [List.append_nil] at hdrop
    rw [trimWhile, hdrop, trimEndWhile_nil]

/-- Trimming uncovers a text that neither begins nor ends with what is trimmed. -/
theorem trimWhile_append {before core after : List Char} (hne : core ≠ [])
    (hbefore : ∀ c ∈ before, p c = true) (hafter : ∀ c ∈ after, p c = true)
    (hhead : ∀ c ∈ core.head?, p c = false) (hlast : ∀ c ∈ core.getLast?, p c = false) :
    trimWhile p (before ++ core ++ after) = core := by
  have hstart : (before ++ core ++ after).dropWhile p = core ++ after := by
    obtain ⟨c, rest, rfl⟩ := List.exists_cons_of_ne_nil hne
    rw [List.append_assoc]
    exact dropWhile_append hbefore hhead
  obtain ⟨front, d, rfl⟩ : ∃ front d, core = front ++ [d] :=
    ⟨core.dropLast, core.getLast hne, (List.dropLast_concat_getLast hne).symm⟩
  have hd : p d = false := hlast d (by rw [List.getLast?_concat]; rfl)
  rw [trimWhile, hstart, trimEndWhile_append_of_all hafter, trimEndWhile_append_cons hd,
    trimEndWhile_nil]

/-! ### Splitting -/

/-- Letters that begin a text begin what stands before a character that is none of them. -/
theorem prefix_of_prefix_append_cons {letters text rest : List Char} {c : Char} (hc : c ∉ letters)
    (h : letters <+: text ++ c :: rest) : letters <+: text := by
  obtain hshorter | ⟨more, rfl⟩ := List.prefix_or_prefix_of_prefix h (List.prefix_append text _)
  · exact hshorter
  · rw [List.prefix_append_right_inj] at h
    cases more with
    | nil => simp
    | cons d more =>
      rw [List.cons_prefix_cons] at h
      exact absurd (h.1 ▸ List.mem_append_right _ List.mem_cons_self) hc

/-- A run of a class in front of a character that is none of it ends in one way only. -/
theorem append_cons_inj (ok : Char → Bool) {front front' back back' : List Char} {c c' : Char}
    (hfront : ∀ d ∈ front, ok d = true) (hfront' : ∀ d ∈ front', ok d = true) (hc : ok c = false)
    (hc' : ok c' = false) (h : front ++ c :: back = front' ++ c' :: back') :
    front = front' ∧ back = back' := by
  have htake : ∀ {run behind : List Char} {d : Char}, (∀ e ∈ run, ok e = true) → ok d = false →
      (run ++ d :: behind).takeWhile ok = run :=
    fun hrun hd => takeWhile_append hrun (by simpa using hd)
  obtain rfl : front = front' := by rw [← htake hfront hc, h, htake hfront' hc']
  exact ⟨rfl, (List.cons.inj (List.append_cancel_left h)).2⟩

theorem bne_of_mem_reverse (h : separator ∉ text) :
    ∀ c ∈ text.reverse, (c != separator) = true := by
  intro c hc
  rw [bne_iff_ne]
  rintro rfl
  exact h (List.mem_reverse.1 hc)

/-- What stands behind the last separator of a text is its longest end without any. -/
theorem behindLast_append_cons {before after : List Char} (h : separator ∉ after) :
    ((before ++ separator :: after).reverse.takeWhile (· != separator)).reverse = after := by
  rw [List.reverse_append, List.reverse_cons, List.append_assoc,
    List.takeWhile_append_of_pos (bne_of_mem_reverse h)]
  simp

theorem split_of_not_mem (h : separator ∉ text) : split separator text = [text] := by
  induction text with
  | nil => rfl
  | cons c rest ih =>
    rw [List.mem_cons, not_or] at h
    rw [split, if_neg (by simpa using Ne.symm h.1), ih h.2]

theorem split_append_cons (before after : List Char) :
    split separator (before ++ separator :: after) =
      split separator before ++ split separator after := by
  induction before with
  | nil => simp [split]
  | cons c before ih =>
    rw [List.cons_append, split, split, ih]
    split
    · rfl
    · obtain ⟨part, parts, hparts⟩ := List.exists_cons_of_ne_nil (split_ne_nil separator before)
      rw [hparts]
      rfl

theorem getLast?_split : (split separator text).getLast? =
    some (text.reverse.takeWhile (· != separator)).reverse := by
  by_cases h : separator ∈ text
  · obtain ⟨after, before, hsplit, hafter⟩ := List.eq_append_cons_of_mem (List.mem_reverse.2 h)
    obtain rfl : text = before.reverse ++ separator :: after.reverse := by
      rw [← List.reverse_reverse text, hsplit]
      simp
    have hlast : separator ∉ after.reverse := by simpa using hafter
    rw [behindLast_append_cons hlast, split_append_cons, split_of_not_mem hlast,
      List.getLast?_concat]
  · have hall : (text.reverse ++ []).takeWhile (· != separator) =
        text.reverse ++ [].takeWhile (· != separator) :=
      List.takeWhile_append_of_pos (bne_of_mem_reverse h)
    rw [List.append_nil, List.takeWhile_nil, List.append_nil] at hall
    rw [split_of_not_mem h, hall, List.reverse_reverse]
    rfl

theorem mem_split (hpart : part ∈ split separator text) (hc : c ∈ part) :
    c ∈ text ∧ c ≠ separator := by
  induction text generalizing part with
  | nil =>
    rw [split_nil, List.mem_singleton] at hpart
    subst hpart
    cases hc
  | cons d rest ih =>
    rw [split] at hpart
    split at hpart
    · obtain rfl | hpart := List.mem_cons.1 hpart
      · cases hc
      · exact (ih hpart hc).imp_left (List.mem_cons_of_mem d)
    · rename_i hd
      obtain ⟨first, parts, hparts⟩ := List.exists_cons_of_ne_nil (split_ne_nil separator rest)
      rw [hparts] at hpart
      obtain rfl | hpart := List.mem_cons.1 hpart
      · obtain rfl | hc := List.mem_cons.1 hc
        · exact ⟨List.mem_cons_self, by simpa using hd⟩
        · have hfirst : first ∈ split separator rest := hparts ▸ List.mem_cons_self
          exact (ih hfirst hc).imp_left (List.mem_cons_of_mem d)
      · have hlater : part ∈ split separator rest := hparts ▸ List.mem_cons_of_mem first hpart
        exact (ih hlater hc).imp_left (List.mem_cons_of_mem d)

/-! ### Joining -/

/-- What stands behind the first part is each later one with the text between them in front. -/
theorem intercalate_cons {α : Type} (between first : List α) (later : List (List α)) :
    between.intercalate (first :: later) = first ++ later.flatMap (between ++ ·) := by
  induction later generalizing first with
  | nil => rw [List.intercalate_singleton, List.flatMap_nil, List.append_nil]
  | cons second later ih =>
    rw [List.intercalate_cons_cons, ih, List.flatMap_cons, List.append_assoc, List.append_assoc]

theorem mem_join {between : List Char} {parts : List (List Char)}
    (h : c ∈ join between parts) : c ∈ between ∨ ∃ part ∈ parts, c ∈ part := by
  unfold join at h
  induction parts with
  | nil => cases h
  | cons first parts ih =>
    cases parts with
    | nil =>
      rw [List.intercalate_singleton] at h
      exact .inr ⟨first, List.mem_cons_self, h⟩
    | cons second parts =>
      rw [List.intercalate_cons_cons] at h
      obtain h | h := List.mem_append.1 h
      · obtain h | h := List.mem_append.1 h
        · exact .inr ⟨first, List.mem_cons_self, h⟩
        · exact .inl h
      · obtain h | ⟨part, hpart, h⟩ := ih h
        · exact .inl h
        · exact .inr ⟨part, List.mem_cons_of_mem first hpart, h⟩

/-- A joined text ends like its last part, unless that is empty. -/
theorem getLast?_join {between : List Char} {parts : List (List Char)} (hne : part ≠ [])
    (h : parts.getLast? = some part) : (join between parts).getLast? = part.getLast? := by
  unfold join
  induction parts with
  | nil => cases h
  | cons first parts ih =>
    cases parts with
    | nil =>
      obtain rfl : first = part := by simpa using h
      rw [List.intercalate_singleton]
    | cons second parts =>
      have hlast := ih (by rwa [List.getLast?_cons_cons] at h)
      rw [List.intercalate_cons_cons, List.getLast?_append, hlast,
        List.getLast?_eq_some_getLast hne, Option.some_or]

end NavGraph.Text
