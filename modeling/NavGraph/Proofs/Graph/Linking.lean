import NavGraph.Proofs.Graph.Assignment
import NavGraph.Proofs.Graph.Connection
import NavGraph.Proofs.Source.Route

/-!
# Every route can be linked to

In a graph that is built from the files of a site, a reference that spells the route of a node is
followed, however it spells the route and in whatever file it stands, and it leads to the first node
that has the route.

## Main definitions

* `Builder.ofSite` - the graph of some files, each a path and a text

## Main statements

* `Builder.exists_declaration_of_mem_ofSite` - each node of a site is that of a declaration, but for
  its id
* `Builder.isRoute_of_mem_ofSite` - the routes of a site's nodes are routes
* `Builder.resolve_follows_spelling` - a reference that spells a node's route connects to its owner
-/

namespace NavGraph.Graph

open Source

theorem exists_follow?_of_normalizeTarget {nodes : List Node} {n : Node} (hn : n ∈ nodes) :
    ∃ owner, nodes.find? (·.routePath == n.routePath) = some owner ∧
      ∀ r : Reference, normalizeTarget r.target = n.routePath →
        follow? nodes r = some ⟨owner.id, r.kind, r.trigger, r.condition⟩ := by
  have hsome : (nodes.find? (·.routePath == n.routePath)).isSome := by
    rw [List.find?_isSome]
    exact ⟨n, hn, beq_self_eq_true _⟩
  obtain ⟨owner, howner⟩ := Option.isSome_iff_exists.1 hsome
  refine ⟨owner, howner, fun r hr => ?_⟩
  rw [follow?, hr, howner]
  rfl

/-- Followed references stand in the order of the references, between what was followed before and
after them. -/
theorem followed_append_cons {nodes : List Node} {earlier later : List Reference} {r : Reference}
    {c : Connection} (hr : follow? nodes r = some c) :
    followed nodes (earlier ++ r :: later) =
      followed nodes earlier ++ c :: followed nodes later := by
  rw [followed, List.filterMap_append, List.filterMap_cons_some hr]
  rfl

namespace Builder

/-- Each node of a graph is one of those that it is built from, but for its id; and it is noted down
as bare if its file says so. -/
theorem IsBuiltFrom.exists_origin {b : Builder} {nodes : List (FileAnalysis × Node)}
    (h : b.IsBuiltFrom nodes) {n : Node} (hn : n ∈ b.nodes) :
    ∃ file m, (file, m) ∈ nodes ∧ n = { m with id := n.id } ∧
      (n.id ∈ b.bareIds ↔ m.id ∈ file.bareRoutes) := by
  obtain ⟨k, hk⟩ := List.mem_iff_getElem?.1 hn
  obtain ⟨hlength, -⟩ := List.getElem?_eq_some_iff.1 hk
  rw [h.length_eq] at hlength
  obtain ⟨⟨file, m⟩, horigin⟩ : ∃ origin, nodes[k]? = some origin :=
    ⟨_, List.getElem?_eq_getElem hlength⟩
  obtain ⟨id, hnode, -, hbare⟩ := h.node_eq horigin
  rw [hk] at hnode
  cases hnode
  exact ⟨file, m, List.mem_of_getElem? horigin, rfl, hbare⟩

/-- The graph of a site: of files with a path and a text each. -/
def ofSite (site : List (String × String)) : Builder :=
  empty.addAll (site.map fun file => analyzeFile file.1 file.2)

variable {site : List (String × String)}

/-- Each node of a site is that of a declaration in it, but for its id; and it is noted down as bare
if the declaration has the bare route. -/
theorem exists_declaration_of_mem_ofSite {n : Node} (hn : n ∈ (ofSite site).nodes) :
    ∃ file ∈ site, ∃ d ∈ declarations file.2, n = { nodeOf file.1 file.2 d with id := n.id } ∧
      (n.id ∈ (ofSite site).bareIds ↔ (route file.1 d.name).2 = true) := by
  have hbuilt := isBuiltFrom_empty.addAll (site.map fun file => analyzeFile file.1 file.2)
  obtain ⟨analysis, m, horigin, heq, hbare⟩ := hbuilt.exists_origin hn
  rw [List.nil_append] at horigin
  obtain ⟨analysis', hanalysis, horigin⟩ := List.mem_flatMap.1 horigin
  obtain ⟨m', hm, horigin⟩ := List.mem_map.1 horigin
  cases horigin
  obtain ⟨file, hfile, rfl⟩ := List.mem_map.1 hanalysis
  obtain ⟨d, hd, rfl⟩ := List.mem_map.1 hm
  exact ⟨file, hfile, d, hd, heq, hbare.trans (mem_bareRoutes_iff hd)⟩

theorem isRoute_of_mem_ofSite (h : ∀ file ∈ site, IsLinkable file.1) {n : Node}
    (hn : n ∈ (ofSite site).nodes) : IsRoute n.routePath := by
  obtain ⟨file, hfile, d, hd, heq, -⟩ := exists_declaration_of_mem_ofSite hn
  rw [heq]
  exact isRoute_route (h file hfile) (isName_of_mem_declarations hd)

/-- **Every derived route can be linked to.**  A target that spells the route of a declaration,
with any number of slashes behind it and with or without a query or a fragment, names that route.
So in the graph of a site, a reference with such a target for any node's route is followed from
every node whose file holds it, to the first node with the route, and the references before and
after it are followed as they are without it. -/
theorem resolve_follows_spelling :
    (∀ path name target, IsLinkable path → IsName name.toList →
      Spells target (route path name).1 → normalizeTarget target = (route path name).1) ∧
    ∀ site : List (String × String), (∀ file ∈ site, IsLinkable file.1) →
      ∀ n ∈ (ofSite site).nodes, ∃ owner,
        (ofSite site).nodes.find? (·.routePath == n.routePath) = some owner ∧
        ∀ (k : Nat) (source : Node) (earlier later : List Reference) (r : Reference),
          Spells r.target n.routePath → (ofSite site).nodes[k]? = some source →
          (ofSite site).referencesOf source = earlier ++ r :: later →
          (ofSite site).resolve.1.nodes[k]? = some { source with
            connections := source.connections ++ (followed (ofSite site).nodes earlier ++
              ⟨owner.id, r.kind, r.trigger, r.condition⟩ ::
                followed (ofSite site).nodes later) } := by
  refine ⟨fun path name target hpath hname => ?_, fun site hsite n hn => ?_⟩
  · exact normalizeTarget_of_spells (isRoute_route hpath hname)
  · obtain ⟨owner, howner, hfollow⟩ := exists_follow?_of_normalizeTarget hn
    refine ⟨owner, howner, fun k source earlier later r hspells hsource hreferences => ?_⟩
    have hnamed := normalizeTarget_of_spells (isRoute_of_mem_ofSite hsite hn) hspells
    rw [resolve, connect, List.getElem?_map, hsource, Option.map_some, newConnections_eq_followed,
      hreferences, followed_append_cons (hfollow r hnamed)]

/-- A page with a parameter in its address, and a page that redirects there. -/
def userSite : List (String × String) :=
  [("pages/users/[id].tsx", "export function User() \x7b return <a> \x7d"),
   ("pages/index.tsx",
    "export function Home() \x7b return <a> \x7d redirect('/users/:id//?tab=1')")]

/-- The redirect of the second page. -/
def userReference : Reference :=
  ⟨"/users/:id//?tab=1", .redirect, "Automatic redirect", none, 38⟩

/-- The redirect leads to the page, past two slashes and a query. -/
theorem resolve_follows_spelling_userSite :
    (∀ file ∈ userSite, IsLinkable file.1) ∧
      normalizeTarget "/users/:id//?tab=1" = "/users/:id" ∧
      ∃ source, (ofSite userSite).resolve.1.nodes[1]? = some source ∧
        source.connections = [⟨"user-0", .redirect, "Automatic redirect", none⟩] := by
  have hlinkable : ∀ file ∈ userSite, IsLinkable file.1 := by
    have hplain : (userSite.all fun file => isCandidate file.1 && file.1.toList.all fun c =>
        !Text.isBlank c && c != '?' && c != '#') = true := by decide +kernel
    intro file hfile
    have hall := List.all_eq_true.1 hplain file hfile
    simp only [Bool.and_eq_true, List.all_eq_true, Bool.not_eq_true', bne_iff_ne, and_assoc] at hall
    exact ⟨hall.1, hall.2⟩
  have hname : IsName "User".toList := ⟨by decide, List.all_eq_true.1 (by decide +kernel)⟩
  have hroute : (route "pages/users/[id].tsx" "User").1 = "/users/:id" := by decide +kernel
  have hspells : Spells "/users/:id//?tab=1" "/users/:id" :=
    ⟨2, "?tab=1".toList, by decide, .inr (.inl rfl)⟩
  obtain ⟨user, home, hnodes⟩ : ∃ user home, (ofSite userSite).nodes = [user, home] :=
    List.length_eq_two.1 (by decide +kernel)
  have hfields : (ofSite userSite).nodes.map
      (fun n => (n.id, n.routePath, n.sourcePath, n.connections)) =
        [("user-0", "/users/:id", "pages/users/[id].tsx", []),
          ("home-0", "/", "pages/index.tsx", [])] := by decide +kernel
  simp only [hnodes, List.map_cons, List.map_nil, List.cons.injEq, Prod.mk.injEq, and_true]
    at hfields
  obtain ⟨⟨huserId, huserRoute, -, -⟩, -, -, hhomePath, hhomeConnections⟩ := hfields
  have hreferences : (ofSite userSite).referencesOf home = [] ++ userReference :: [] := by
    have hfound : unorderedReferences userSite[1].2.toList = [userReference] := by
      decide +kernel
    have hdeclared : (declarations userSite[1].2).isEmpty = false := by decide +kernel
    have hfile : (ofSite userSite).files.lookup "pages/index.tsx" =
        some (analyzeFile "pages/index.tsx" userSite[1].2) := by
      simp [ofSite, userSite, Assoc.lookup_put, analyzeFile]
    rw [referencesOf, hhomePath, hfile]
    simp [analyzeFile, hdeclared, references, hfound]
  refine ⟨hlinkable, ?_, ?_⟩
  · rw [← hroute] at hspells ⊢
    exact resolve_follows_spelling.1 _ _ _ (hlinkable _ List.mem_cons_self) hname hspells
  · have huser : user ∈ (ofSite userSite).nodes := by
      rw [hnodes]
      exact List.mem_cons_self
    have hhome : (ofSite userSite).nodes[1]? = some home := by
      rw [hnodes]
      rfl
    obtain ⟨owner, howner, hfollow⟩ := resolve_follows_spelling.2 userSite hlinkable user huser
    obtain rfl : user = owner := by simpa [hnodes] using howner
    refine ⟨_, hfollow 1 home [] [] userReference (huserRoute ▸ hspells) hhome hreferences, ?_⟩
    simp [hhomeConnections, huserId, followed, userReference]

end Builder

end NavGraph.Graph
