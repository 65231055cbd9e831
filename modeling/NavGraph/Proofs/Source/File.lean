import NavGraph.Proofs.Text.Trim
import NavGraph.Source.File

/-!
# Nodes of an analyzed file

What the analysis of a file says of the node of one declaration: its id is its own within the file,
so that a note under the id is a note about the declaration.

## Main statements

* `nodeId_injOn` - declarations of a text have different ids
* `mem_bareRoutes_iff` - which nodes an analysis notes down as having the bare route only
-/

namespace NavGraph.Source

/-- The id of a declaration tells its place among those of its file. -/
theorem index_eq_of_nodeId_eq {d e : Declaration} (h : nodeId d = nodeId e) :
    d.index = e.index := by
  have hdash : ∀ n, '-' ∉ Text.digitsOfNat n := by
    intro n hmem
    exact absurd (Text.isDigit_of_mem_digitsOfNat hmem) (by decide)
  have hlist := congrArg String.toList h
  simp only [nodeId, String.toList_append, String.toList_ofList, List.append_assoc] at hlist
  have hdigits : Text.digitsOfNat d.index = Text.digitsOfNat e.index := by
    rw [← Text.behindLast_append_cons (hdash d.index),
      ← Text.behindLast_append_cons (hdash e.index)]
    exact congrArg (fun text => (text.reverse.takeWhile (· != '-')).reverse) hlist
  exact Text.digitsOfNat_inj.1 hdigits

/-- **Declarations of a text have different ids**, whatever their names are. -/
theorem nodeId_injOn {text : String} {d e : Declaration} (hd : d ∈ declarations text)
    (he : e ∈ declarations text) (h : nodeId d = nodeId e) : d = e := by
  obtain ⟨i, hi, rfl⟩ := List.mem_mapIdx.1 hd
  obtain ⟨j, hj, rfl⟩ := List.mem_mapIdx.1 he
  obtain rfl : i = j := index_eq_of_nodeId_eq h
  rfl

/-- **An analysis notes down exactly the declarations whose route is the bare one.** -/
theorem mem_bareRoutes_iff {path text : String} {d : Declaration} (hd : d ∈ declarations text) :
    nodeId d ∈ (analyzeFile path text).bareRoutes ↔ (route path d.name).2 = true := by
  rw [analyzeFile, List.mem_map]
  constructor
  · rintro ⟨e, he, hid⟩
    obtain ⟨he, hbare⟩ := List.mem_filter.1 he
    rwa [← nodeId_injOn he hd hid]
  · exact fun hbare => ⟨d, List.mem_filter.2 ⟨hd, hbare⟩, rfl⟩

end NavGraph.Source
