import Mathlib.Data.List.Nodup
import Mathlib.Data.List.Perm.Subperm
import NavGraph.Graph.Builder

/-!
# Ids of a graph

Whatever files are added to a graph, no two of its nodes share an id.

## Main definitions

* `Builder.IsFirstFree` - the first number that makes an id free
* `Builder.IsIdentified` - the recorded ids are the ids of the nodes, and no two are equal

## Main statements

* `assignId_not_mem` - the id that a node gets is not taken
* `IsIdentified.add`, `IsIdentified.connect` - the two passes keep ids apart

## Design notes

That a number makes an id free is a counting argument: one more number is tried than there are
ids taken, and different numbers make different ids.
-/

namespace NavGraph.Graph.Builder

open Source

/-! ### A free number -/

/-- Different numbers behind an id make different ids. -/
theorem numbered_injective (id : String) : Function.Injective (numbered id) := by
  intro m n h
  refine Text.digitsOfNat_inj.1 ?_
  have hlist : (numbered id m).toList = (numbered id n).toList := congrArg String.toList h
  simpa [numbered] using hlist

/-- Among one more numbers than there are ids taken, one makes an id that is not taken. -/
theorem exists_numbered_not_mem (taken : List String) (id : String) :
    ∃ n ∈ (List.range (taken.length + 1)).map (· + 2), numbered id n ∉ taken := by
  by_contra hall
  push Not at hall
  let tried := ((List.range (taken.length + 1)).map (· + 2)).map (numbered id)
  have hnodup : tried.Nodup :=
    (List.nodup_range.map fun _ _ h => Nat.add_right_cancel h).map (numbered_injective id)
  have hsub : tried ⊆ taken := by
    intro s hs
    obtain ⟨n, hn, rfl⟩ := List.mem_map.1 hs
    exact hall n hn
  -- More different ids than are taken cannot all be taken.
  have hlength := (hnodup.subperm hsub).length_le
  simp only [tried, List.length_map, List.length_range] at hlength
  omega

/-- The first number from two on that makes an id free, found in no more tries than one more than
there are ids taken. -/
structure IsFirstFree (taken : List String) (id : String) (n : Nat) : Prop where
  two_le : 2 ≤ n
  le : n ≤ taken.length + 2
  not_mem : numbered id n ∉ taken
  mem_of_lt : ∀ m, 2 ≤ m → m < n → numbered id m ∈ taken

/-- **The search for a number ends**, and the number that an id gets is the first that makes it
free. -/
theorem isFirstFree_freeNumber (taken : List String) (id : String) :
    IsFirstFree taken id (freeNumber taken id) := by
  obtain ⟨n, hn, hfree⟩ := exists_numbered_not_mem taken id
  unfold freeNumber
  cases hfound : ((List.range (taken.length + 1)).map (· + 2)).find? fun n =>
      !taken.contains (numbered id n) with
  | none =>
      have htaken := List.find?_eq_none.1 hfound n hn
      simp [hfree] at htaken
  | some k =>
      rw [List.find?_map, Option.map_eq_some_iff] at hfound
      obtain ⟨i, hi, rfl⟩ := hfound
      obtain ⟨hlast, hrange, hearlier⟩ := List.find?_range_eq_some.1 hi
      rw [List.mem_range] at hrange
      refine ⟨Nat.le_add_left 2 i, Nat.add_le_add_right (Nat.lt_succ_iff.1 hrange) 2, ?_, ?_⟩
      · simpa using hlast
      · intro m hm hlt
        obtain ⟨j, rfl⟩ := Nat.exists_eq_add_of_le' hm
        simpa using hearlier j (Nat.lt_of_add_lt_add_right hlt)

/-- **The id that a node gets is not taken**, whatever ids are. -/
theorem assignId_not_mem (taken : List String) (path id : String) :
    assignId taken path id ∉ taken := by
  unfold assignId
  split
  · simp_all
  · dsimp only
    split
    · simp_all
    · exact (isFirstFree_freeNumber taken _).not_mem

/-! ### Ids of all nodes -/

/-- The recorded ids of a graph are those of its nodes in order, and no two are equal. -/
structure IsIdentified (b : Builder) : Prop where
  ids_eq : b.ids = b.nodes.map (·.id)
  nodup : b.ids.Nodup

theorem isIdentified_empty : IsIdentified empty := ⟨rfl, List.nodup_nil⟩

theorem IsIdentified.addNode {b : Builder} (h : b.IsIdentified) (analysis : FileAnalysis)
    (n : Node) : (addNode analysis b n).IsIdentified where
  ids_eq := by simp [Builder.addNode, h.ids_eq]
  nodup := by
    refine List.nodup_append.2 ⟨h.nodup, List.pairwise_singleton _ _, ?_⟩
    intro id hid id' hid'
    rw [List.mem_singleton] at hid'
    subst hid'
    rintro rfl
    exact assignId_not_mem _ _ _ hid

/-- What adding a file does node by node: a property that a node keeps is kept by the file. -/
theorem add_induction {P : Builder → Prop} {b : Builder} (analysis : FileAnalysis)
    (hfiles : P { b with files := Assoc.put analysis.path analysis b.files })
    (hnode : ∀ b, ∀ n ∈ analysis.nodes, P b → P (Builder.addNode analysis b n)) :
    P (b.add analysis) :=
  List.foldlRecOn analysis.nodes _ hfiles fun b hb n hn => hnode b n hn hb

theorem IsIdentified.add {b : Builder} (h : b.IsIdentified) (analysis : FileAnalysis) :
    (b.add analysis).IsIdentified :=
  add_induction analysis ⟨h.ids_eq, h.nodup⟩ fun _ n _ hb => hb.addNode analysis n

theorem IsIdentified.connect {b : Builder} (h : b.IsIdentified) : b.connect.IsIdentified where
  ids_eq := by simp [Builder.connect, h.ids_eq, Function.comp_def]
  nodup := h.nodup

end NavGraph.Graph.Builder
