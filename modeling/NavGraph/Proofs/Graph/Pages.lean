import Mathlib.Data.List.Forall2
import NavGraph.Proofs.Graph.Table
import NavGraph.Proofs.Source.Bare
import NavGraph.Proofs.Source.Parameter

/-!
# The table lists the real pages

The nodes of a site stand in the order in which its files were scanned, one for each declaration,
and the table of routes goes through them in this order: it lists a page unless its route is the
bare one for want of a better, and passes over every other node.  What is noted down of bare routes
is about ids, and ids change when two nodes share one; since the notes follow the ids, the table is
not affected by that.

## Main definitions

* `Declared`, `declaredIn` - the declarations of a site in scan order
* `IsRealPage` - which nodes are pages with a route of their own
* `IsEntryOf` - what an entry of the table says of its node
* `IsTableOf` - a table that lists the real pages among some nodes

## Main statements

* `Builder.isTableOf_routes` - the table of every site is of this kind
-/

namespace NavGraph.Graph

open Source

/-! ### Declarations of a site -/

/-- A declaration with the file that it stands in. -/
structure Declared where
  path : String
  text : String
  declaration : Declaration

/-- **The declarations of a site in scan order**: file by file, and in each file as they stand in
its text. -/
def declaredIn (site : List (String × String)) : List Declared :=
  site.flatMap fun file => (declarations file.2).map fun d => ⟨file.1, file.2, d⟩

/-- The node of a declaration, whatever its id is in a graph. -/
def IsNodeOf (d : Declared) (n : Node) : Prop :=
  n = { nodeOf d.path d.text d.declaration with id := n.id }

/-- **A page with a route of its own**: it is below a root of routes, or its name is more than a
word for a page. -/
def IsRealPage (d : Declared) (n : Node) : Prop :=
  n.kind = .page ∧ ¬ (¬ HasRouteRoot n.sourcePath ∧ IsBareName d.declaration.name)

/-! ### Entries -/

/-- **What an entry of the table says of its node**: where it is, whether a guard is in front of it,
and the parameters of its route, if there are any; and then the node is said to need some. -/
structure IsEntryOf (n : Node) (e : RouteEntry) : Prop where
  path_eq : e.path = n.routePath
  slash : e.path.toList.head? = some '/'
  componentName_eq : e.componentName = n.displayName
  sourcePath_eq : e.sourcePath = n.sourcePath
  guarded : n.metadata.isProtected = true → e.guards = some ["auth"]
  unguarded : n.metadata.isProtected = false → e.guards = none
  params : e.params = none ∧ paramNames e.path.toList = [] ∨
    e.params = some ((paramNames e.path.toList).map String.ofList) ∧
      paramNames e.path.toList ≠ [] ∧ n.metadata.hasParameters = true

/-- **A table lists the real pages** among nodes if it goes through them in order and has one entry
for each of them, and none for the others. -/
inductive IsTableOf : List (Declared × Node) → List RouteEntry → Prop
  | nil : IsTableOf [] []
  | listed {d : Declared} {n : Node} {e : RouteEntry} {nodes : List (Declared × Node)}
      {entries : List RouteEntry} (real : IsRealPage d n) (isEntry : IsEntryOf n e)
      (later : IsTableOf nodes entries) : IsTableOf ((d, n) :: nodes) (e :: entries)
  | passed {d : Declared} {n : Node} {nodes : List (Declared × Node)} {entries : List RouteEntry}
      (unreal : ¬ IsRealPage d n) (later : IsTableOf nodes entries) :
      IsTableOf ((d, n) :: nodes) entries

variable {site : List (String × String)} {d : Declared} {n : Node}

theorem mem_declarations_of_mem_declaredIn (h : d ∈ declaredIn site) :
    d.declaration ∈ declarations d.text := by
  obtain ⟨file, -, hd⟩ := List.mem_flatMap.1 h
  obtain ⟨declaration, hdeclaration, rfl⟩ := List.mem_map.1 hd
  exact hdeclaration

/-- The route of a declaration's node begins with a slash. -/
theorem exists_routePath_eq (h : IsNodeOf d n) : ∃ rest, n.routePath.toList = '/' :: rest := by
  have hroute : n.routePath = (route d.path d.declaration.name).1 := congrArg Node.routePath h
  rw [hroute]
  exact exists_route_eq d.path d.declaration.name

/-- A node whose route has a parameter is said to need some. -/
theorem hasParameters_of_isNodeOf (h : IsNodeOf d n)
    (hparams : paramNames n.routePath.toList ≠ []) :
    n.metadata.hasParameters = true := by
  have hcolon : ':' ∈ n.routePath.toList := mem_of_paramNames_ne_nil hparams
  rw [h] at hcolon ⊢
  show (flags d.text _).hasParameters = true
  rw [flags, Bool.or_eq_true]
  exact .inr (List.contains_iff_mem.2 hcolon)

theorem isEntryOf_routeEntry (h : IsNodeOf d n) : IsEntryOf n (Builder.routeEntry n) where
  path_eq := rfl
  slash := by
    obtain ⟨rest, hrest⟩ := exists_routePath_eq h
    rw [Builder.routeEntry, hrest, List.head?_cons]
  componentName_eq := rfl
  sourcePath_eq := rfl
  guarded := fun hprotected => if_pos hprotected
  unguarded := fun hprotected => if_neg (Bool.eq_false_iff.1 hprotected)
  params := by
    show Builder.nonEmpty? (routeParams n.routePath) = none ∧ _ ∨
      Builder.nonEmpty? (routeParams n.routePath) = some _ ∧ _
    rw [routeParams_eq, Builder.nonEmpty?]
    by_cases hparams : paramNames n.routePath.toList = []
    · exact .inl ⟨by rw [hparams]; rfl, hparams⟩
    · refine .inr ⟨if_neg ?_, hparams, hasParameters_of_isNodeOf h hparams⟩
      simpa using hparams

/-! ### The table of a site -/

/-- Entries of the nodes that a test picks out are a table, if the test picks out the real pages. -/
theorem isTableOf_filter {routed : Node → Bool} {nodes : List (Declared × Node)}
    (h : ∀ x ∈ nodes, IsNodeOf x.1 x.2 ∧ (routed x.2 = true ↔ IsRealPage x.1 x.2)) :
    IsTableOf nodes (((nodes.map Prod.snd).filter routed).map Builder.routeEntry) := by
  induction nodes with
  | nil => exact .nil
  | cons x nodes ih =>
    obtain ⟨⟨hnode, hrouted⟩, hnodes⟩ := List.forall_mem_cons.1 h
    rw [List.map_cons]
    by_cases hreal : IsRealPage x.1 x.2
    · rw [List.filter_cons_of_pos (hrouted.2 hreal), List.map_cons]
      exact .listed hreal (isEntryOf_routeEntry hnode) (ih hnodes)
    · rw [List.filter_cons_of_neg fun hx => hreal (hrouted.1 hx)]
      exact .passed hreal (ih hnodes)

namespace Builder

/-- The nodes that a site is built from are those of its declarations. -/
theorem origins_site (site : List (String × String)) :
    origins (site.map fun file => analyzeFile file.1 file.2) =
      (declaredIn site).map fun d =>
        (analyzeFile d.path d.text, nodeOf d.path d.text d.declaration) := by
  rw [origins, List.flatMap_map, declaredIn, List.map_flatMap]
  congr 1
  funext file
  show ((declarations file.2).map (nodeOf file.1 file.2)).map _ = _
  rw [List.map_map, List.map_map]
  rfl

/-- **Where a declaration stands, its node does**, and it is noted down as bare if its route is. -/
theorem isNodeOf_of_mem_zip {x : Declared × Node}
    (h : x ∈ (declaredIn site).zip (ofSite site).nodes) : IsNodeOf x.1 x.2 ∧
      (x.2.id ∈ (ofSite site).bareIds ↔ (route x.1.path x.1.declaration.name).2 = true) := by
  have hbuilt := isBuiltFrom_empty.addAll (site.map fun file => analyzeFile file.1 file.2)
  rw [List.nil_append, origins_site] at hbuilt
  obtain ⟨k, hk⟩ := List.mem_iff_getElem?.1 h
  obtain ⟨hd, hn⟩ := List.getElem?_zip_eq_some.1 hk
  have horigin : ((declaredIn site).map fun d =>
      (analyzeFile d.path d.text, nodeOf d.path d.text d.declaration))[k]? =
        some (analyzeFile x.1.path x.1.text, nodeOf x.1.path x.1.text x.1.declaration) := by
    rw [List.getElem?_map, hd, Option.map_some]
  obtain ⟨id, hnode, -, hbare⟩ := hbuilt.node_eq horigin
  have heq := Option.some.inj (hn.symm.trans hnode)
  have hdeclared := mem_declarations_of_mem_declaredIn (List.mem_of_getElem? hd)
  rw [IsNodeOf, heq]
  exact ⟨rfl, hbare.trans (mem_bareRoutes_iff hdeclared)⟩

/-- The table picks out the real pages. -/
theorem isRouted_iff_isRealPage {x : Declared × Node}
    (h : x ∈ (declaredIn site).zip (ofSite site).nodes) :
    (ofSite site).isRouted x.2 = true ↔ IsRealPage x.1 x.2 := by
  obtain ⟨hnode, hbare⟩ := isNodeOf_of_mem_zip h
  have hdeclared := mem_declarations_of_mem_declaredIn (List.of_mem_zip h).1
  have hroute : x.2.routePath ≠ "" := by
    obtain ⟨rest, hrest⟩ := exists_routePath_eq hnode
    intro hempty
    rw [hempty] at hrest
    cases hrest
  have hpath : x.2.sourcePath = x.1.path := congrArg Node.sourcePath hnode
  rw [isRouted_iff, hbare, route_isBare_iff (isName_of_mem_declarations hdeclared), IsRealPage,
    hpath, and_iff_right hroute]

theorem length_nodes_ofSite (site : List (String × String)) :
    (declaredIn site).length = (ofSite site).nodes.length := by
  have hbuilt := isBuiltFrom_empty.addAll (site.map fun file => analyzeFile file.1 file.2)
  rw [List.nil_append, origins_site] at hbuilt
  rw [ofSite, hbuilt.length_eq, List.length_map]

/-- **The table of routes is exactly the real pages.**  A site has one node for each declaration, in
scan order and under different ids, and its table goes through them in this order: it has one entry
for each page with a route of its own, whatever has become of ids, and no other. -/
theorem isTableOf_routes (site : List (String × String)) :
    List.Forall₂ IsNodeOf (declaredIn site) (ofSite site).nodes ∧
      ((ofSite site).nodes.map (·.id)).Nodup ∧
      IsTableOf ((declaredIn site).zip (ofSite site).nodes) (ofSite site).routes := by
  have hlength := length_nodes_ofSite site
  have hnodes : ((declaredIn site).zip (ofSite site).nodes).map Prod.snd = (ofSite site).nodes :=
    List.map_snd_zip (Nat.le_of_eq hlength.symm)
  have hids : ((ofSite site).nodes.map (·.id)).Nodup :=
    isIdentified_ofSite.ids_eq ▸ isIdentified_ofSite.nodup
  have hpicked : ∀ x ∈ (declaredIn site).zip (ofSite site).nodes, IsNodeOf x.1 x.2 ∧
      ((ofSite site).isRouted x.2 = true ↔ IsRealPage x.1 x.2) :=
    fun x hx => ⟨(isNodeOf_of_mem_zip hx).1, isRouted_iff_isRealPage hx⟩
  have htable := isTableOf_filter hpicked
  rw [hnodes] at htable
  exact ⟨List.forall₂_iff_zip.2 ⟨hlength, fun h => (isNodeOf_of_mem_zip h).1⟩, hids, htable⟩

/-- Of three files with a declaration of one name, the one below a root of routes is listed. -/
example : (ofSite [("x.tsx", barePage), ("pages/x.ts", barePage), ("x.js", barePage)]).routes.map
    (fun e => (e.path, e.sourcePath)) = [("/x", "pages/x.ts")] := by
  decide +kernel

end Builder

end NavGraph.Graph
