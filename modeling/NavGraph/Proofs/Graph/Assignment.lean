import NavGraph.Proofs.Graph.Identity
import NavGraph.Proofs.Source.File

/-!
# Which ids nodes get

Files are added to a graph one after the other, and each of their nodes is given an id that was not
taken.  This module says which one, for every node of the graph at once: a node keeps its own id, or
takes the path of its file into it, or a number too, by what the nodes before it are called.

## Main definitions

* `Builder.addAll` - a graph with more files
* `origins` - the nodes of files in order, each with the file that it is from
* `Builder.IsAssigned` - which id a node gets where some are taken
* `Builder.IsBuiltFrom` - a graph that holds nodes of files under the ids that they get

## Main statements

* `isAssigned_assignId` - a node gets the id that is due to it
* `IsBuiltFrom.addNode`, `IsBuiltFrom.addAll` - adding nodes and files keeps to that
* `ids_addAll` - the ids of a graph, and which of them are noted down for a bare route

## Design notes

What is taken when a node comes is what the nodes before it are called, so the ids that a list of
files leads to are told by the list of their nodes alone.  A note about a bare route is made under
the id that the node has in the graph; that it is about this node and no other is a matter of ids
being different, here and, for declarations of one file, in `nodeId_injOn`.
-/

namespace NavGraph.Graph

open Source

/-- The nodes of files in order, each with the file that it is from. -/
def origins (files : List FileAnalysis) : List (FileAnalysis × Node) :=
  files.flatMap fun file => file.nodes.map (file, ·)

@[simp] theorem origins_cons (file : FileAnalysis) (files : List FileAnalysis) :
    origins (file :: files) = file.nodes.map (file, ·) ++ origins files := rfl

namespace Builder

/-- A graph with more files, one after the other. -/
def addAll (b : Builder) (files : List FileAnalysis) : Builder := files.foldl add b

@[simp] theorem addAll_nil (b : Builder) : b.addAll [] = b := rfl

@[simp] theorem addAll_cons (b : Builder) (file : FileAnalysis) (files : List FileAnalysis) :
    b.addAll (file :: files) = (b.add file).addAll files := rfl

/-! ### The id of one node -/

/-- The id that is due to a node where some ids are taken: its own if that is free, else its own
with the slug of its path, else that with the first number from two on that makes it free. -/
inductive IsAssigned (taken : List String) (path id : String) : String → Prop where
  | own (h : id ∉ taken) : IsAssigned taken path id id
  | slugged (h : id ∈ taken) (hslugged : id ++ "-" ++ slug path ∉ taken) :
      IsAssigned taken path id (id ++ "-" ++ slug path)
  | numbered {n : Nat} (h : id ∈ taken) (hslugged : id ++ "-" ++ slug path ∈ taken)
      (hn : IsFirstFree taken (id ++ "-" ++ slug path) n) :
      IsAssigned taken path id (numbered (id ++ "-" ++ slug path) n)

theorem isAssigned_assignId (taken : List String) (path id : String) :
    IsAssigned taken path id (assignId taken path id) := by
  unfold assignId
  by_cases h : id ∈ taken
  · by_cases hslugged : id ++ "-" ++ slug path ∈ taken
    · simpa [h, hslugged] using
        IsAssigned.numbered h hslugged (isFirstFree_freeNumber taken (id ++ "-" ++ slug path))
    · simpa [h, hslugged] using IsAssigned.slugged h hslugged
  · simpa [h] using IsAssigned.own h

/-! ### The ids of all nodes -/

/-- A graph **is built from** nodes of files if it holds them in order, each under the id that was
due to it when it came, and nothing else about them is changed; and if it has noted down as bare
exactly those that their files say are. -/
structure IsBuiltFrom (b : Builder) (nodes : List (FileAnalysis × Node)) : Prop where
  identified : b.IsIdentified
  bareIds_subset : b.bareIds ⊆ b.ids
  length_eq : b.nodes.length = nodes.length
  node_eq : ∀ {k file n}, nodes[k]? = some (file, n) → ∃ id,
    b.nodes[k]? = some { n with id := id } ∧
      IsAssigned ((b.nodes.take k).map (·.id)) file.path n.id id ∧
      (id ∈ b.bareIds ↔ n.id ∈ file.bareRoutes)

theorem isBuiltFrom_empty : empty.IsBuiltFrom [] where
  identified := isIdentified_empty
  bareIds_subset := List.Subset.refl []
  length_eq := rfl
  node_eq h := by cases h

variable {b : Builder} {nodes : List (FileAnalysis × Node)}

/-- Which ids are noted down as bare after one more node: those that were, and the new one if its
file says so. -/
theorem mem_bareIds_addNode {file : FileAnalysis} {n : Node} {id : String} :
    id ∈ (Builder.addNode file b n).bareIds ↔
      id ∈ b.bareIds ∨ (id = assignId b.ids file.path n.id ∧ n.id ∈ file.bareRoutes) := by
  unfold Builder.addNode
  by_cases h : n.id ∈ file.bareRoutes
  · simp [h]
  · simp [h]

/-- **One more node.**  The nodes before it stay what they are, and so do the notes about them,
since the new id is none of theirs. -/
theorem IsBuiltFrom.addNode (h : b.IsBuiltFrom nodes) (file : FileAnalysis) (n : Node) :
    (Builder.addNode file b n).IsBuiltFrom (nodes ++ [(file, n)]) where
  identified := h.identified.addNode file n
  bareIds_subset := by
    intro id hid
    obtain hid | ⟨rfl, -⟩ := mem_bareIds_addNode.1 hid
    · exact List.mem_append_left _ (h.bareIds_subset hid)
    · exact List.mem_append_right _ (List.mem_singleton.2 rfl)
  length_eq := by simp [Builder.addNode, h.length_eq]
  node_eq := by
    have hfree : assignId b.ids file.path n.id ∉ b.ids := assignId_not_mem _ _ _
    intro k file' m hk
    obtain hlt | hge := Nat.lt_or_ge k nodes.length
    · -- A node that was there keeps its id, and the note that is added is not about it.
      rw [List.getElem?_append_left hlt] at hk
      obtain ⟨id, hnode, hassigned, hbare⟩ := h.node_eq hk
      have hmem : id ∈ b.ids := by
        rw [h.identified.ids_eq]
        exact List.mem_map_of_mem (f := (·.id)) (List.mem_of_getElem? hnode)
      rw [← h.length_eq] at hlt
      refine ⟨id, ?_, ?_, ?_⟩
      · rw [Builder.addNode, List.getElem?_append_left hlt, hnode]
      · rwa [Builder.addNode, List.take_append_of_le_length (Nat.le_of_lt hlt)]
      · rw [mem_bareIds_addNode, ← hbare, or_iff_left]
        rintro ⟨rfl, -⟩
        exact hfree hmem
    · -- The new node stands behind the others, so its id was due among theirs.
      rw [List.getElem?_append_right hge] at hk
      obtain ⟨hk, hnew⟩ := List.getElem?_eq_some_iff.1 hk
      obtain rfl : k = nodes.length := by
        rw [List.length_singleton] at hk
        omega
      simp only [Nat.sub_self, List.getElem_cons_zero, Prod.mk.injEq] at hnew
      obtain ⟨rfl, rfl⟩ := hnew
      refine ⟨assignId b.ids file.path n.id, ?_, ?_, ?_⟩
      · simp [Builder.addNode, ← h.length_eq]
      · rw [Builder.addNode, ← h.length_eq, List.take_left, ← h.identified.ids_eq]
        exact isAssigned_assignId _ _ _
      · rw [mem_bareIds_addNode, or_iff_right fun hbare => hfree (h.bareIds_subset hbare)]
        exact and_iff_right rfl

theorem IsBuiltFrom.foldl_addNode (h : b.IsBuiltFrom nodes) (file : FileAnalysis)
    (more : List Node) :
    (more.foldl (Builder.addNode file) b).IsBuiltFrom (nodes ++ more.map (file, ·)) := by
  induction more generalizing b nodes with
  | nil => simpa using h
  | cons n more ih => simpa using ih (h.addNode file n)

/-- The table of files does not matter for ids. -/
theorem IsBuiltFrom.add (h : b.IsBuiltFrom nodes) (file : FileAnalysis) :
    (b.add file).IsBuiltFrom (nodes ++ file.nodes.map (file, ·)) := by
  have hfiles : IsBuiltFrom { b with files := Assoc.put file.path file b.files } nodes :=
    ⟨⟨h.identified.ids_eq, h.identified.nodup⟩, h.bareIds_subset, h.length_eq, h.node_eq⟩
  exact hfiles.foldl_addNode file file.nodes

theorem IsBuiltFrom.addAll (h : b.IsBuiltFrom nodes) (files : List FileAnalysis) :
    (b.addAll files).IsBuiltFrom (nodes ++ origins files) := by
  induction files generalizing b nodes with
  | nil => simpa [origins] using h
  | cons file files ih => simpa using ih (h.add file)

/-- Nodes that are there stay, in their places. -/
theorem nodes_prefix_add (b : Builder) (file : FileAnalysis) : b.nodes <+: (b.add file).nodes := by
  refine add_induction (P := fun c => b.nodes <+: c.nodes) file List.prefix_rfl ?_
  exact fun c n _ hc => hc.trans (List.prefix_append c.nodes _)

/-- **Ids of a graph.**  Whatever files were added: the recorded ids are those of the nodes, and no
two are equal; the nodes are those of the files in order, each under the id that was due to it, and
stay what they are when one more file is added; a number that makes an id free is always found; and
the node of a declaration is noted down as having the bare route only if and only if its route is
marked as that, whatever became of its id. -/
theorem ids_addAll (files : List FileAnalysis) :
    let b := empty.addAll files
    b.IsBuiltFrom (origins files) ∧
      (∀ file, b.nodes <+: (empty.addAll (files ++ [file])).nodes) ∧
      (∀ taken id, ∃ n, IsFirstFree taken id n) ∧
      ∀ (k : Nat) (path text : String) (n : Node), ∀ d ∈ declarations text,
        (origins files)[k]? = some (analyzeFile path text, nodeOf path text d) →
        b.nodes[k]? = some n → (n.id ∈ b.bareIds ↔ (route path d.name).2 = true) := by
  intro b
  have hbuilt : b.IsBuiltFrom (origins files) := by
    simpa using isBuiltFrom_empty.addAll files
  refine ⟨hbuilt, ?_, fun taken id => ⟨_, isFirstFree_freeNumber taken id⟩, ?_⟩
  · intro file
    have hlast : empty.addAll (files ++ [file]) = b.add file := by simp [b, Builder.addAll]
    rw [hlast]
    exact b.nodes_prefix_add file
  · intro k path text n d hd horigin hn
    obtain ⟨id, hnode, -, hbare⟩ := hbuilt.node_eq horigin
    rw [hn] at hnode
    cases hnode
    exact hbare.trans (mem_bareRoutes_iff hd)

/-- A text that declares a page whose name says nothing else. -/
def barePage : String := "export function Page() \x7b return <a> \x7d"

/-- Files of one text whose paths differ in their endings only. -/
def barePages : List FileAnalysis :=
  [analyzeFile "x.tsx" barePage, analyzeFile "x.ts" barePage, analyzeFile "x.js" barePage]

/-- The third of three pages with one id and one slug gets a number, and is noted down under it. -/
theorem ids_addAll_barePages :
    (empty.addAll barePages).nodes.map (·.id) = ["page-0", "page-0-x", "page-0-x-2"] ∧
      "page-0-x-2" ∈ (empty.addAll barePages).bareIds := by
  have hids : (empty.addAll barePages).nodes.map (·.id) = ["page-0", "page-0-x", "page-0-x-2"] := by
    decide +kernel
  have hdeclared : declarations barePage = [⟨"Page", 0⟩] := by decide +kernel
  have horigin : (origins barePages)[2]? =
      some (analyzeFile "x.js" barePage, nodeOf "x.js" barePage ⟨"Page", 0⟩) := by
    simp [origins, barePages, analyzeFile, hdeclared]
  have hlength : 2 < (empty.addAll barePages).nodes.length := by
    have h := congrArg List.length hids
    rw [List.length_map] at h
    rw [h]
    decide
  have hid : (empty.addAll barePages).nodes[2].id = "page-0-x-2" := by
    have h := congrArg (fun ids => ids[2]?) hids
    simpa [List.getElem?_eq_getElem hlength] using h
  refine ⟨hids, ?_⟩
  have hbare := (ids_addAll barePages).2.2.2 2 "x.js" barePage _ ⟨"Page", 0⟩
    (by rw [hdeclared]; exact List.mem_singleton.2 rfl) horigin (List.getElem?_eq_getElem hlength)
  rw [hid] at hbare
  exact hbare.2 (by decide +kernel)

end Builder

end NavGraph.Graph
