import NavGraph.Proofs.Pattern.Folding
import NavGraph.Proofs.Pattern.Order
import NavGraph.Source.Route

/-!
# Script extensions

What is cut off the name of a file is one of twelve endings, in any letter case, and it is cut off
at the end only: an ending has no point but the first, so that no name has two.

## Main definitions

* `IsScriptExtension` - the endings of scripts
* `LosesExtension` - a name and what is left of it

## Main statements

* `mem_ways_scriptExtension` - what the pattern for an extension matches
* `losesExtension_replaceAll` - what is left when matches are replaced by nothing
-/

namespace NavGraph

namespace Source

open Pattern

/-! ### Extensions -/

/-- Endings of scripts. -/
def scriptExtensions : List String :=
  [".cjsx", ".cjs", ".ctsx", ".cts", ".mjsx", ".mjs", ".mtsx", ".mts", ".jsx", ".js", ".tsx", ".ts"]

/-- An ending of a script in any letter case. -/
def IsScriptExtension (text : List Char) : Prop :=
  text.map Text.foldAscii ∈ scriptExtensions.map String.toList

instance (text : List Char) : Decidable (IsScriptExtension text) :=
  inferInstanceAs (Decidable (text.map Text.foldAscii ∈ scriptExtensions.map String.toList))

/-- What may stand behind the ending of a script. -/
def IsTail (text : List Char) : Prop := text = [] ∨ text = ['\n']

/-- Nothing folds to a point but a point. -/
theorem foldAscii_eq_point {c : Char} : Text.foldAscii c = '.' ↔ c = '.' :=
  Text.foldAscii_eq_iff rfl (by decide)

/-- The pattern for an extension without the end of the text. -/
theorem readsFolded_scriptExtension : ReadsFolded (scriptExtensions.map String.toList)
    (sequence [single '.', optional (oneOfAnyCase "cm"), oneOfAnyCase "jt", anyCase "s",
      optional (anyCase "x")]) := by
  have hpoint : ReadsFolded [['.']] (single '.') :=
    readsFolded_char ['.'] fun c => by simp [foldAscii_eq_point]
  have hclass (chars : String) : ReadsFolded (chars.toList.map ([·])) (oneOfAnyCase chars) :=
    readsFolded_char chars.toList fun c => List.contains_iff_mem
  have hforms : product [['.']] (product ("cm".toList.map ([·]) ++ [[]])
      (product ("jt".toList.map ([·])) (product [['s']] (product ([['x']] ++ [[]]) [[]])))) =
        scriptExtensions.map String.toList := by
    decide +kernel
  rw [← hforms]
  exact hpoint.cons ((hclass "cm").optional.cons ((hclass "jt").cons ((readsFolded_anyCase "s").cons
    ((readsFolded_anyCase "x").optional.cons readsFolded_nil))))

/-- **The pattern for an extension matches an ending of a script at the end of a text.** -/
theorem mem_ways_scriptExtension {p : Place} {cs : Captures} {w : Place × Captures} :
    w ∈ ways scriptExtension p cs ↔ ∃ ending tail, p.rest = ending ++ tail ∧
      IsScriptExtension ending ∧ IsTail tail ∧ w = (p.after ending tail, cs) := by
  rw [scriptExtension, mem_ways_sequence_cut 5]
  constructor
  · rintro ⟨v, hv, hw⟩
    obtain ⟨ending, tail, hrest, hending, rfl⟩ := (readsFolded_scriptExtension p cs v).1 hv
    obtain ⟨hend, rfl⟩ := mem_ways_textEnd.1 hw
    exact ⟨ending, tail, hrest, hending, Place.atTextEnd_iff.1 hend, rfl⟩
  · rintro ⟨ending, tail, hrest, hending, hend, rfl⟩
    refine ⟨_, (readsFolded_scriptExtension p cs _).2 ⟨ending, tail, hrest, hending, rfl⟩, ?_⟩
    exact mem_ways_textEnd.2 ⟨Place.atTextEnd_iff.2 hend, rfl⟩

/-- An ending begins with a point, and there is no other in it or behind it. -/
theorem IsScriptExtension.exists_body {ending tail : List Char} (h : IsScriptExtension ending)
    (htail : IsTail tail) : ∃ body, ending ++ tail = '.' :: body ∧ '.' ∉ body := by
  have hforms : ∀ form ∈ scriptExtensions.map String.toList,
      form.head? = some '.' ∧ '.' ∉ form.tail := by decide +kernel
  obtain ⟨hhead, hpoint⟩ := hforms _ h
  cases ending with
  | nil => cases hhead
  | cons c body =>
    rw [List.map_cons, List.head?_cons, Option.some_inj, foldAscii_eq_point] at hhead
    subst hhead
    refine ⟨body ++ tail, rfl, fun hmem => ?_⟩
    obtain hmem | hmem := List.mem_append.1 hmem
    · exact hpoint (List.mem_map.2 ⟨'.', hmem, foldAscii_eq_point.2 rfl⟩)
    · obtain rfl | rfl := htail
      · cases hmem
      · exact absurd hmem (by decide)

/-! ### Names without their extension -/

/-- **What is left of the name of a file**: without the ending of a script if it has one at its end,
or before a line feed that ends it, and otherwise the name as it is. -/
inductive LosesExtension : List Char → List Char → Prop
  | ending (stem : List Char) {ending tail : List Char} (isExtension : IsScriptExtension ending)
      (isTail : IsTail tail) : LosesExtension (stem ++ (ending ++ tail)) (stem ++ tail)
  | whole {file : List Char} (without : ∀ stem ending tail, IsScriptExtension ending →
      IsTail tail → file ≠ stem ++ (ending ++ tail)) : LosesExtension file file

variable {file : List Char}

/-- Nothing is left of a name only if it is all ending. -/
theorem LosesExtension.exists_body_of_nil (h : LosesExtension file []) (hne : file ≠ []) :
    ∃ body, file = '.' :: body ∧ '.' ∉ body := by
  generalize hstem : ([] : List Char) = left at h
  cases h with
  | whole without => exact absurd hstem.symm hne
  | ending stem isExtension isTail =>
    obtain ⟨rfl, rfl⟩ := List.append_eq_nil_iff.1 hstem.symm
    obtain ⟨body, hbody, hpoint⟩ := isExtension.exists_body isTail
    exact ⟨body, hbody, hpoint⟩

theorem exists_extension_of_mem_findAll {m : Match} (hm : m ∈ scriptExtension.findAll file) :
    ∃ ending tail, IsScriptExtension ending ∧ IsTail tail ∧
      file.drop m.start = ending ++ tail ∧ m.stop = m.start + ending.length := by
  obtain ⟨p, hplace, w, hw, rfl⟩ := exists_place_of_mem_findAll hm
  obtain ⟨ending, tail, hrest, hending, htail, rfl⟩ := mem_ways_scriptExtension.1 hw
  exact ⟨ending, tail, hending, htail, hplace.trans hrest, rfl⟩

/-- At most one extension is found in a name: behind the point that it begins with is no other. -/
theorem findAll_scriptExtension_eq {m : Match} {later : List Match}
    (h : scriptExtension.findAll file = m :: later) : later = [] := by
  cases later with
  | nil => rfl
  | cons n later =>
    have horder : (m :: n :: later).Pairwise fun m n => m.stop ≤ n.start ∧ m.start < n.start :=
      h ▸ pairwise_findAll
    have hlater := (List.rel_of_pairwise_cons horder List.mem_cons_self).2
    have hm : m ∈ scriptExtension.findAll file := h ▸ List.mem_cons_self
    have hn : n ∈ scriptExtension.findAll file := h ▸ List.mem_cons_of_mem m List.mem_cons_self
    obtain ⟨_, _, hending, htail, hdrop, -⟩ := exists_extension_of_mem_findAll hm
    obtain ⟨_, _, hending', htail', hdrop', -⟩ := exists_extension_of_mem_findAll hn
    obtain ⟨body, hbody, hpoint⟩ := hending.exists_body htail
    obtain ⟨body', hbody', -⟩ := hending'.exists_body htail'
    obtain ⟨k, hk⟩ := Nat.exists_eq_add_of_lt hlater
    have hwithin : body.drop k = '.' :: body' := by
      rw [← hbody', ← hdrop', hk, Nat.add_assoc, ← List.drop_drop, hdrop, hbody,
        List.drop_succ_cons]
    refine absurd (List.drop_subset k body ?_) hpoint
    rw [hwithin]
    exact List.mem_cons_self

/-- **Replacing an extension by nothing leaves what is left of the name.** -/
theorem losesExtension_replaceAll (file : List Char) :
    LosesExtension file (scriptExtension.replaceAll [] file) := by
  unfold replaceAll pieces
  cases hfound : scriptExtension.findAll file with
  | nil =>
    rw [piecesFrom, List.flatMap_singleton]
    refine .whole fun stem ending tail hending htail hfile => ?_
    subst hfile
    exact at?_eq_none_iff.1 (at?_of_findAll_eq_nil hfound) _ (mem_ways_scriptExtension.2
      ⟨ending, tail, Place.after_rest, hending, htail, rfl⟩)
  | cons m later =>
    obtain rfl := findAll_scriptExtension_eq hfound
    have hm : m ∈ scriptExtension.findAll file := hfound ▸ List.mem_cons_self
    obtain ⟨ending, tail, hending, htail, hdrop, hstop⟩ := exists_extension_of_mem_findAll hm
    have hfile : file = file.take m.start ++ (ending ++ tail) := by
      rw [← hdrop, List.take_append_drop]
    have hbehind : file.drop m.stop = tail := by
      rw [hstop, ← List.drop_drop, hdrop, List.drop_left]
    have hkept := LosesExtension.ending (file.take m.start) hending htail
    rw [← hfile] at hkept
    simpa [piecesFrom, hbehind] using hkept

end Source

end NavGraph
