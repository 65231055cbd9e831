import NavGraph.Proofs.Pattern.Running
import NavGraph.Proofs.Source.Description
import NavGraph.Proofs.Text.Trim

/-!
# Parameters of a route

The parameters of a route are the words behind its colons, one for each colon that a word stands
behind.  The search for them jumps over each word that it finds; since no colon is in a word, it
jumps over no colon.

## Main definitions

* `paramNames` - the words behind the colons of a text

## Main statements

* `routeParams_eq` - the parameters of a route are these
* `mem_of_paramNames_ne_nil` - only a route with a colon has any
-/

namespace NavGraph.Source

open Pattern

/-- **The words behind the colons of a text**, in order. -/
def paramNames : List Char → List (List Char)
  | [] => []
  | c :: rest =>
      if c = ':' ∧ rest.takeWhile Text.isWord ≠ [] then
        rest.takeWhile Text.isWord :: paramNames rest
      else paramNames rest

variable {text rest : List Char} {p : Place} {m : Match}

/-- Only a text with a colon has a word behind one. -/
theorem mem_of_paramNames_ne_nil (h : paramNames text ≠ []) : ':' ∈ text := by
  induction text with
  | nil => exact absurd rfl h
  | cons c rest ih =>
    rw [paramNames] at h
    split at h
    · rename_i hc
      rw [hc.1]
      exact List.mem_cons_self
    · exact List.mem_cons_of_mem c (ih h)

/-- No colon is in a word. -/
theorem paramNames_dropWhile (text : List Char) :
    paramNames (text.dropWhile Text.isWord) = paramNames text := by
  induction text with
  | nil => rfl
  | cons c rest ih =>
    by_cases hc : Text.isWord c = true
    · have hcolon : c ≠ ':' := by
        rintro rfl
        exact absurd hc (by decide +kernel)
      rw [List.dropWhile_cons_of_pos hc, ih, paramNames, if_neg fun h => hcolon h.1]
    · rw [List.dropWhile_cons_of_neg hc]

theorem paramNames_eq_nil (h : ':' ∉ text) : paramNames text = [] :=
  Classical.byContradiction fun hne => h (mem_of_paramNames_ne_nil hne)

/-- **No word goes on where no word character stands**, so the parts of a text have its words. -/
theorem paramNames_append (h : ∀ c ∈ rest.head?, Text.isWord c = false) :
    paramNames (text ++ rest) = paramNames text ++ paramNames rest := by
  induction text with
  | nil => rfl
  | cons c text ih =>
    have hword : (text ++ rest).takeWhile Text.isWord = text.takeWhile Text.isWord := by
      have hnone : rest.takeWhile Text.isWord = [] :=
        Text.takeWhile_append (List.forall_mem_nil _) h
      rw [List.takeWhile_append, hnone, List.append_nil]
      split
      · rename_i hall
        exact ((List.takeWhile_prefix Text.isWord).eq_of_length hall).symm
      · rfl
    rw [List.cons_append, paramNames, paramNames, ih, hword]
    split <;> rfl

/-! ### Matches -/

/-- A match takes a colon and the word behind it. -/
theorem exists_name_of_at?_routeParam (h : routeParam.at? p = some m) :
    ∃ name rest, p.rest = ':' :: (name ++ rest) ∧ IsName name := by
  obtain ⟨w, hw, -⟩ := exists_way_of_at? h
  obtain ⟨v, hv, hw⟩ := mem_ways_seq.1 hw
  obtain ⟨u, hu, rfl⟩ := mem_ways_capture.1 hw
  obtain ⟨d, rest, hrest, hd, rfl⟩ := mem_ways_char.1 hv
  obtain ⟨name, hreaches, hne, hname⟩ := reaches_of_mem_ways_oneOrMore hu
  have hbehind : rest = name ++ u.1.rest := hreaches.rest_eq
  exact ⟨name, u.1.rest, by rw [hrest, beq_iff_eq.1 hd, hbehind], hne, hname⟩

/-- The word is taken whole. -/
theorem at?_routeParam (hrest : p.rest = ':' :: rest) (hne : rest.takeWhile Text.isWord ≠ []) :
    routeParam.at? p = some ⟨p.position, p.position + 1 + (rest.takeWhile Text.isWord).length,
      [(1, ⟨p.position + 1, rest.takeWhile Text.isWord⟩)]⟩ := by
  have hsplit : (p.after [':'] rest).rest =
      rest.takeWhile Text.isWord ++ rest.dropWhile Text.isWord :=
    List.takeWhile_append_dropWhile.symm
  have hword : ∀ d ∈ rest.takeWhile Text.isWord, Text.isWord d = true :=
    fun d hd => List.all_eq_true.1 List.all_takeWhile d hd
  have hstop : ∀ d ∈ (rest.dropWhile Text.isWord).head?, Text.isWord d = false := by
    intro d hd
    have := List.head?_dropWhile_not Text.isWord rest
    simpa [Option.mem_def.1 hd] using this
  have hrun : routeParam.matchAt p = some (((p.after [':'] rest).after
      (rest.takeWhile Text.isWord) (rest.dropWhile Text.isWord)),
        [(1, ⟨p.position + 1, rest.takeWhile Text.isWord⟩)]) := by
    rw [matchAt, routeParam, run, run_single_of_cons hrest, run]
    refine run_oneOrMore hsplit hne hword hstop ?_
    rw [Place.textTo_after hsplit]
    rfl
  rw [at?, hrun]
  rfl

/-- **The search finds the words behind the colons** from its start on. -/
theorem map_findAllFrom_routeParam (before : Option Char) (position start : Nat)
    (text : List Char) : (findAllFrom routeParam before position start text).map (·.text 1) =
      (paramNames (text.drop (start - position))).map String.ofList := by
  induction text generalizing before position start with
  | nil =>
    have hnone : routeParam.at? ⟨before, position, []⟩ = none := by
      rw [Option.eq_none_iff_forall_ne_some]
      intro m hm
      obtain ⟨name, rest, hrest, -⟩ := exists_name_of_at?_routeParam hm
      cases hrest
    rw [findAllFrom, hnone, List.drop_nil]
    split <;> rfl
  | cons c rest ih =>
    rw [findAllFrom]
    split
    · rename_i hstart
      rw [Nat.sub_eq_zero_of_le hstart, List.drop_zero, paramNames]
      split
      · rename_i found hfound
        obtain ⟨name, rest', hrest, hname⟩ := exists_name_of_at?_routeParam hfound
        obtain ⟨rfl, hbehind⟩ := List.cons.inj hrest
        have hne : rest.takeWhile Text.isWord ≠ [] := by
          rw [hbehind, List.takeWhile_append_of_pos hname.isWord]
          exact List.append_ne_nil_of_left_ne_nil hname.ne_nil _
        have hdrop : (rest.takeWhile Text.isWord ++ rest.dropWhile Text.isWord).drop
            (rest.takeWhile Text.isWord).length = rest.dropWhile Text.isWord := List.drop_left
        rw [List.takeWhile_append_dropWhile] at hdrop
        rw [at?_routeParam rfl hne] at hfound
        cases hfound
        rw [if_pos ⟨rfl, hne⟩, List.map_cons, List.map_cons, ih,
          Nat.max_eq_left (Nat.le_add_right _ _), Nat.add_sub_cancel_left, hdrop,
          paramNames_dropWhile]
        rfl
      · rename_i hnone
        rw [if_neg, ih, Nat.sub_eq_zero_of_le (Nat.le_succ_of_le hstart), List.drop_zero]
        rintro ⟨rfl, hne⟩
        rw [at?_routeParam rfl hne] at hnone
        cases hnone
    · rename_i hstart
      obtain ⟨k, hk⟩ := Nat.exists_eq_add_of_lt (Nat.lt_of_not_le hstart)
      rw [ih]
      have hdrop : start - position = (start - (position + 1)) + 1 := by omega
      rw [hdrop, List.drop_succ_cons]

/-- **The parameters of a route are the words behind its colons.** -/
theorem routeParams_eq (route : String) :
    routeParams route = (paramNames route.toList).map String.ofList := by
  rw [routeParams, findAll, map_findAllFrom_routeParam, Nat.sub_self, List.drop_zero]

end NavGraph.Source
