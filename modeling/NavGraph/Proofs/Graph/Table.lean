import NavGraph.Proofs.Graph.Linking

/-!
# Connections and the table of routes

The table of routes lists pages, and of these only such whose route is not the bare one.  A
reference that names a route of the table is followed all the same to the first node with that
route, whatever that node is.  So a connection leads past the table where a component, or a page of
which only the bare route is left, comes before the page that is listed, and nowhere else.

## Main definitions

* `Builder.IsListed` - a node that the table has an entry for
* `Builder.Occurrence` - a reference in a graph, with the node that it is followed from
* `Builder.AgreesWithTable` - references to listed routes lead to listed nodes

## Main statements

* `mem_routes_iff`, `routes_resolve` - what the table lists, before the second pass and after it
* `not_agreesWithTable_shadowed` - a component or a bare page may come before the page that is
  listed
* `leadsTo_owner` - where a reference to a listed route leads, and when that node is listed itself
-/

namespace NavGraph.Graph

open Source

namespace Builder

variable {b : Builder}

/-! ### What the table lists -/

/-- A node **is listed** under a path if the table of routes has an entry for it there. -/
structure IsListed (b : Builder) (path : String) (n : Node) : Prop where
  mem : n ∈ b.nodes
  routed : b.isRouted n = true
  path_eq : n.routePath = path

theorem isRouted_iff {n : Node} :
    b.isRouted n = true ↔ n.kind = .page ∧ n.routePath ≠ "" ∧ n.id ∉ b.bareIds := by
  simp [isRouted, and_assoc]

/-- The entries of the table are those of listed nodes. -/
theorem mem_routes_iff {e : RouteEntry} :
    e ∈ b.routes ↔ ∃ n, b.IsListed e.path n ∧ routeEntry n = e := by
  rw [routes, List.mem_map]
  constructor
  · rintro ⟨n, hn, rfl⟩
    obtain ⟨hmem, hrouted⟩ := List.mem_filter.1 hn
    exact ⟨n, ⟨hmem, hrouted, rfl⟩, rfl⟩
  · rintro ⟨n, hn, rfl⟩
    exact ⟨n, List.mem_filter.2 ⟨hn.mem, hn.routed⟩, rfl⟩

/-- Connections do not enter the table, so the second pass leaves it as it is. -/
theorem routes_resolve (b : Builder) : b.resolve.1.routes = b.routes := by
  unfold routes resolve connect
  rw [List.filter_map, List.map_map]
  rfl

/-! ### Where references lead -/

/-- A reference in a graph, with the node that it is followed from, and the references that stand
before and after it in the node's file. -/
structure Occurrence (b : Builder) where
  place : Nat
  source : Node
  earlier : List Reference
  reference : Reference
  later : List Reference
  source_eq : b.nodes[place]? = some source
  references_eq : b.referencesOf source = earlier ++ reference :: later

/-- A reference **leads to** a node if the second pass connects the one to the other, between what
it makes of the references before and after. -/
def Occurrence.LeadsTo (o : b.Occurrence) (target : Node) : Prop :=
  b.resolve.1.nodes[o.place]? = some { o.source with
    connections := o.source.connections ++ (followed b.nodes o.earlier ++
      ⟨target.id, o.reference.kind, o.reference.trigger, o.reference.condition⟩ ::
        followed b.nodes o.later) }

/-- References to routes of the table lead to nodes that the table lists there. -/
def AgreesWithTable (b : Builder) : Prop :=
  ∀ (o : b.Occurrence), ∀ e ∈ b.resolve.1.routes, normalizeTarget o.reference.target = e.path →
    ∃ n, b.IsListed e.path n ∧ o.LeadsTo n

/-- A reference that names the route of a node leads to the first node with that route. -/
theorem Occurrence.leadsTo_of_find? (o : b.Occurrence) {owner : Node}
    (h : b.nodes.find? (·.routePath == normalizeTarget o.reference.target) = some owner) :
    o.LeadsTo owner := by
  have hfollow : follow? b.nodes o.reference =
      some ⟨owner.id, o.reference.kind, o.reference.trigger, o.reference.condition⟩ := by
    rw [follow?, h]
    rfl
  rw [LeadsTo, resolve, connect, List.getElem?_map, o.source_eq, Option.map_some,
    newConnections_eq_followed, o.references_eq, followed_append_cons hfollow]

/-- **A reference leads to a listed node exactly if the first node with its route is listed**, since
ids are different and so no other node is led to. -/
theorem Occurrence.leadsTo_listed_iff (hb : b.IsIdentified) (o : b.Occurrence) {owner : Node}
    {path : String} (h : b.nodes.find? (·.routePath == path) = some owner)
    (htarget : normalizeTarget o.reference.target = path) :
    (∃ n, b.IsListed path n ∧ o.LeadsTo n) ↔ b.IsListed path owner := by
  have howner : o.LeadsTo owner := o.leadsTo_of_find? (htarget ▸ h)
  constructor
  · rintro ⟨n, hn, hleads⟩
    have hid : n.id = owner.id := by
      rw [LeadsTo] at howner hleads
      rw [howner] at hleads
      simpa using hleads.symm
    have hnodup : (b.nodes.map (·.id)).Nodup := hb.ids_eq ▸ hb.nodup
    have hsame := List.inj_on_of_nodup_map hnodup hn.mem (List.mem_of_find?_eq_some h) hid
    exact hsame ▸ hn
  · exact fun hlisted => ⟨owner, hlisted, howner⟩

/-! ### Sites -/

variable {site : List (String × String)}

theorem isIdentified_ofSite : (ofSite site).IsIdentified :=
  (isBuiltFrom_empty.addAll _).identified

/-- A page that redirects to the root. -/
def rootPage : String := "export function Index() \x7b return <a> \x7d redirect('/')"

/-- The page at the root of a site, and before it a declaration that has no directory to take a
route from. -/
def shadowedSite (name : String) : List (String × String) :=
  [("components/" ++ name ++ ".tsx", "export function " ++ name ++ "() \x7b return <a> \x7d"),
   ("pages/index.tsx", rootPage)]

/-- The redirect of the page. -/
def rootReference : Reference := ⟨"/", .redirect, "Automatic redirect", none, 39⟩

/-- Both nodes of such a site have the root for a route.  The second one redirects there, and is the
only one that is listed. -/
theorem exists_shadowed {name : String} (hname : name = "Home" ∨ name = "Page") :
    ∃ (o : (ofSite (shadowedSite name)).Occurrence) (e : RouteEntry) (shadow : Node),
      e ∈ (ofSite (shadowedSite name)).resolve.1.routes ∧
      normalizeTarget o.reference.target = e.path ∧
      (ofSite (shadowedSite name)).nodes.find? (·.routePath == e.path) = some shadow ∧
      (ofSite (shadowedSite name)).isRouted shadow = false := by
  obtain ⟨shadow, page, hnodes⟩ : ∃ shadow page,
      (ofSite (shadowedSite name)).nodes = [shadow, page] :=
    List.length_eq_two.1 (by obtain rfl | rfl := hname <;> decide +kernel)
  have hfields : (ofSite (shadowedSite name)).nodes.map
      (fun n => (n.routePath, (ofSite (shadowedSite name)).isRouted n)) =
        [("/", false), ("/", true)] := by
    obtain rfl | rfl := hname <;> decide +kernel
  have hpaths : (ofSite (shadowedSite name)).nodes.map (·.sourcePath) =
      ["components/" ++ name ++ ".tsx", "pages/index.tsx"] := by
    obtain rfl | rfl := hname <;> decide +kernel
  simp only [hnodes, List.map_cons, List.map_nil, List.cons.injEq, Prod.mk.injEq, and_true]
    at hfields hpaths
  obtain ⟨⟨hshadow, hunlisted⟩, hpage, hlisted⟩ := hfields
  have hreferences : (ofSite (shadowedSite name)).referencesOf page = [rootReference] := by
    have hfile : (ofSite (shadowedSite name)).files.lookup "pages/index.tsx" =
        some (analyzeFile "pages/index.tsx" rootPage) := by
      rw [shadowedSite, ofSite, List.map_cons, List.map_singleton, addAll_cons, addAll_cons,
        addAll_nil, files_add, Assoc.lookup_put]
      exact if_pos rfl
    have hfound : unorderedReferences rootPage.toList = [rootReference] := by decide +kernel
    have hdeclared : (declarations rootPage).isEmpty = false := by decide +kernel
    rw [referencesOf, hpaths.2, hfile]
    simp [analyzeFile, hdeclared, references, hfound]
  have hmem : page ∈ (ofSite (shadowedSite name)).nodes := by simp [hnodes]
  have hroot : normalizeTarget rootReference.target = "/" := by decide
  refine ⟨⟨1, page, [], rootReference, [], ?_, hreferences⟩, routeEntry page, shadow, ?_,
    hroot.trans hpage.symm, ?_, hunlisted⟩
  · rw [hnodes]
    rfl
  · rw [routes_resolve]
    exact mem_routes_iff.2 ⟨page, ⟨hmem, hlisted, rfl⟩, rfl⟩
  · simp [hnodes, routeEntry, hshadow, hpage]

/-- **A connection can lead past the table.**  The root is listed for the page, but the redirect
to it leads to the declaration before: to a component, or to a page with no more than the bare
route. -/
theorem not_agreesWithTable_shadowed :
    ¬ (ofSite (shadowedSite "Home")).AgreesWithTable ∧
      ¬ (ofSite (shadowedSite "Page")).AgreesWithTable := by
  have hshadowed : ∀ name, name = "Home" ∨ name = "Page" →
      ¬ (ofSite (shadowedSite name)).AgreesWithTable := by
    intro name hname hagrees
    obtain ⟨o, e, shadow, he, htarget, hfirst, hunlisted⟩ := exists_shadowed hname
    have hsame := (o.leadsTo_listed_iff isIdentified_ofSite hfirst htarget).1
      (hagrees o e he htarget)
    rw [hsame.routed] at hunlisted
    cases hunlisted
  exact ⟨hshadowed "Home" (.inl rfl), hshadowed "Page" (.inr rfl)⟩

/-- **Where a reference to a listed route leads.**  In the graph of any site, a reference that names
a route of the table leads to the first node with that route.  This is a node that the table lists
under the route if and only if its declaration is a page, and has the route for a better reason than
that nothing is left of its name. -/
theorem leadsTo_owner (site : List (String × String)) (o : (ofSite site).Occurrence)
    {e : RouteEntry} (he : e ∈ (ofSite site).resolve.1.routes)
    (htarget : normalizeTarget o.reference.target = e.path) :
    ∃ owner, (ofSite site).nodes.find? (·.routePath == e.path) = some owner ∧ o.LeadsTo owner ∧
      ∃ file ∈ site, ∃ d ∈ declarations file.2,
        owner = { nodeOf file.1 file.2 d with id := owner.id } ∧
        ((∃ n, (ofSite site).IsListed e.path n ∧ o.LeadsTo n) ↔
          classify d.name file.1 file.2 = .page ∧ (route file.1 d.name).2 = false) := by
  rw [routes_resolve] at he
  obtain ⟨listed, hlisted, -⟩ := mem_routes_iff.1 he
  obtain ⟨owner, howner, -⟩ := exists_follow?_of_normalizeTarget hlisted.mem
  rw [hlisted.path_eq] at howner
  have hmem := List.mem_of_find?_eq_some howner
  have hpath : owner.routePath = e.path := by simpa using List.find?_some howner
  obtain ⟨file, hfile, d, hd, hnode, hbare⟩ := exists_declaration_of_mem_ofSite hmem
  refine ⟨owner, howner, o.leadsTo_of_find? (htarget ▸ howner), file, hfile, d, hd, hnode, ?_⟩
  have hkind : owner.kind = classify d.name file.1 file.2 := congrArg Node.kind hnode
  have hne : owner.routePath ≠ "" := by
    rw [hpath, ← hlisted.path_eq]
    exact (isRouted_iff.1 hlisted.routed).2.1
  rw [o.leadsTo_listed_iff isIdentified_ofSite howner htarget, ← hkind, ← Bool.not_eq_true,
    ← hbare]
  constructor
  · intro h
    obtain ⟨hpage, -, hnamed⟩ := isRouted_iff.1 h.routed
    exact ⟨hpage, hnamed⟩
  · rintro ⟨hpage, hnamed⟩
    exact ⟨hmem, isRouted_iff.2 ⟨hpage, hne, hnamed⟩, hpath⟩

/-- The redirect leads to the component before the page, which is not listed. -/
theorem leadsTo_owner_shadowed :
    ∃ (o : (ofSite (shadowedSite "Home")).Occurrence) (e : RouteEntry) (owner : Node),
      e ∈ (ofSite (shadowedSite "Home")).resolve.1.routes ∧
      normalizeTarget o.reference.target = e.path ∧ o.LeadsTo owner ∧
      (ofSite (shadowedSite "Home")).isRouted owner = false := by
  obtain ⟨o, e, shadow, he, htarget, hfirst, hunlisted⟩ := exists_shadowed (.inl rfl)
  obtain ⟨owner, howner, hleads, -⟩ := leadsTo_owner _ o he htarget
  rw [hfirst] at howner
  cases howner
  exact ⟨o, e, shadow, he, htarget, hleads, hunlisted⟩

end Builder

end NavGraph.Graph
