import Mathlib.Data.List.Forall2
import NavGraph.Graph.Journeys

/-!
# Journeys along the first landmarks

A landmark is the first node of a list with a property, so what stands behind it does not matter to
it: a list that grows keeps the landmarks that it has.  The journeys of a list are told by its three
landmarks alone.  Each of them may be missing, and one node may be several of them.

## Main definitions

* `Node.Mentions`, `Node.IsStart` - the properties of landmarks
* `IsFirst` - the first node with a property, or none
* `itineraries` - for whom there are journeys, and along which steps, by the landmarks
* `Journey.LeadsAlong` - a journey along steps, which starts at the first and ends at the last

## Main statements

* `IsFirst.unique`, `IsFirst.append` - there is one landmark, and growing keeps it
* `exists_later_journey` - growing keeps journeys
* `journeys_lead_along` - the journeys of a list, and of a longer one
-/

namespace NavGraph

/-- A node **mentions** a word if its route or its name has the word in it, in any letter case. -/
def Node.Mentions (word : String) (n : Node) : Prop :=
  word.toList <:+: Text.lower n.routePath.toList ∨ word.toList <:+: Text.lower n.displayName.toList

/-- A node is the **start** of a site if it is at the root or mentions a home. -/
def Node.IsStart (n : Node) : Prop := n.routePath = "/" ∨ n.Mentions "home"

/-- A journey **leads along** steps for an audience: it starts at the first of them and ends at the
last. -/
structure Journey.LeadsAlong (j : Journey) (audience : Audience) (steps : List Node) : Prop where
  audience_eq : j.audience = audience
  steps_eq : j.steps = steps
  start_eq : steps.head?.map (·.id) = some j.startId
  end_eq : steps.getLast?.map (·.id) = some j.endId

namespace Graph

variable {p : Node → Prop} {nodes : List Node} {word : String}

/-! ### Landmarks -/

/-- The **first** node of a list with a property; there is none if no node has it. -/
inductive IsFirst (p : Node → Prop) (nodes : List Node) : Option Node → Prop where
  | first {n : Node} {before after : List Node} (hnodes : nodes = before ++ n :: after) (h : p n)
      (hbefore : ∀ m ∈ before, ¬ p m) : IsFirst p nodes (some n)
  | none (h : ∀ m ∈ nodes, ¬ p m) : IsFirst p nodes none

/-- The first node with a property is what a search for it finds. -/
theorem isFirst_iff {test : Node → Bool} (htest : ∀ n, test n = true ↔ p n)
    {landmark : Option Node} : IsFirst p nodes landmark ↔ nodes.find? test = landmark := by
  have hnot : ∀ n, ¬ p n ↔ (!test n) = true := by
    intro n
    rw [Bool.not_eq_true', ← Bool.not_eq_true, htest]
  cases landmark with
  | none =>
    rw [List.find?_eq_none]
    constructor
    · rintro (_ | hnone) m hm
      rw [htest]
      exact hnone m hm
    · exact fun h => .none fun m hm hp => h m hm ((htest m).2 hp)
  | some n =>
    rw [List.find?_eq_some_iff_append]
    constructor
    · rintro ⟨hnodes, h, hbefore⟩
      exact ⟨(htest n).2 h, _, _, hnodes, fun m hm => (hnot m).1 (hbefore m hm)⟩
    · rintro ⟨hn, before, after, hnodes, hbefore⟩
      exact .first hnodes ((htest n).1 hn) fun m hm => (hnot m).2 (hbefore m hm)

/-- **There is only one landmark with a property.** -/
theorem IsFirst.unique {landmark landmark' : Option Node} (h : IsFirst p nodes landmark)
    (h' : IsFirst p nodes landmark') : landmark = landmark' := by
  classical
  have htest : ∀ n, decide (p n) = true ↔ p n := fun n => decide_eq_true_iff
  exact ((isFirst_iff htest).1 h).symm.trans ((isFirst_iff htest).1 h')

/-- **A list that grows keeps its landmarks.** -/
theorem IsFirst.append {n : Node} (h : IsFirst p nodes (some n)) (more : List Node) :
    IsFirst p (nodes ++ more) (some n) := by
  cases h with
  | first hnodes h hbefore =>
    rw [hnodes, List.append_assoc, List.cons_append]
    exact .first rfl h hbefore

theorem isLandmark_iff_mentions {n : Node} : isLandmark word n = true ↔ n.Mentions word := by
  rw [isLandmark, Bool.or_eq_true, Text.contains_iff_isInfix, Text.contains_iff_isInfix,
    Node.Mentions]

theorem isFirst_home? (nodes : List Node) : IsFirst Node.IsStart nodes (home? nodes) :=
  (isFirst_iff fun n => by
    rw [Bool.or_eq_true, beq_iff_eq, isLandmark_iff_mentions, Node.IsStart]).2 rfl

theorem isFirst_login? (nodes : List Node) :
    IsFirst (Node.Mentions "login") nodes (login? nodes) :=
  (isFirst_iff fun _ => isLandmark_iff_mentions).2 rfl

theorem isFirst_dashboard? (nodes : List Node) :
    IsFirst (Node.Mentions "dashboard") nodes (dashboard? nodes) :=
  (isFirst_iff fun _ => isLandmark_iff_mentions).2 rfl

/-! ### Journeys -/

/-- For whom there are journeys in order, and along which steps, by the start of the site, the place
to sign in and the dashboard. -/
def itineraries : Option Node → Option Node → Option Node → List (Audience × List Node)
  | some home, some login, some dashboard =>
      [(.guest, [home, login, dashboard]), (.authenticated, [dashboard])]
  | some home, some login, none => [(.guest, [home, login])]
  | _, _, some dashboard => [(.authenticated, [dashboard])]
  | _, _, none => []

theorem leadsAlong_guestJourney (home login : Node) (dashboard : Option Node) :
    (guestJourney home login dashboard).LeadsAlong .guest ([home, login] ++ dashboard.toList) where
  audience_eq := rfl
  steps_eq := rfl
  start_eq := rfl
  end_eq := by cases dashboard <;> rfl

theorem leadsAlong_returningJourney (dashboard : Node) :
    (returningJourney dashboard).LeadsAlong .authenticated [dashboard] :=
  ⟨rfl, rfl, rfl, rfl⟩

/-- The journeys of a list follow the itineraries of its landmarks. -/
theorem forall₂_journeys (nodes : List Node) :
    List.Forall₂ (fun j i => j.LeadsAlong i.1 i.2) (journeys nodes)
      (itineraries (home? nodes) (login? nodes) (dashboard? nodes)) := by
  have hguest := fun home login => leadsAlong_guestJourney home login (dashboard? nodes)
  unfold journeys
  cases hdashboard : dashboard? nodes with
  | none =>
    rw [hdashboard] at hguest
    cases home? nodes with
    | none => exact .nil
    | some home =>
      cases login? nodes with
      | none => exact .nil
      | some login => exact .cons (hguest home login) .nil
  | some dashboard =>
    rw [hdashboard] at hguest
    have hreturning := leadsAlong_returningJourney dashboard
    cases home? nodes with
    | none => exact .cons hreturning .nil
    | some home =>
      cases login? nodes with
      | none => exact .cons hreturning .nil
      | some login => exact .cons (hguest home login) (.cons hreturning .nil)

/-- Each journey of a list follows one of the itineraries. -/
theorem exists_itinerary {j : Journey} (hj : j ∈ journeys nodes) :
    ∃ i ∈ itineraries (home? nodes) (login? nodes) (dashboard? nodes), j.LeadsAlong i.1 i.2 := by
  have hall := forall₂_journeys nodes
  obtain ⟨k, hk, rfl⟩ := List.mem_iff_getElem.1 hj
  exact ⟨_, List.getElem_mem (hall.length_eq ▸ hk), hall.get hk (hall.length_eq ▸ hk)⟩

/-- Each itinerary is followed by one of the journeys. -/
theorem exists_journey {i : Audience × List Node}
    (hi : i ∈ itineraries (home? nodes) (login? nodes) (dashboard? nodes)) :
    ∃ j ∈ journeys nodes, j.LeadsAlong i.1 i.2 := by
  have hall := forall₂_journeys nodes
  obtain ⟨k, hk, rfl⟩ := List.mem_iff_getElem.1 hi
  exact ⟨_, List.getElem_mem (hall.length_eq ▸ hk), hall.get (hall.length_eq ▸ hk) hk⟩

theorem mem_itineraries_iff {home login dashboard : Option Node} {i : Audience × List Node} :
    i ∈ itineraries home login dashboard ↔
      (∃ h ∈ home, ∃ l ∈ login, i = (.guest, [h, l] ++ dashboard.toList)) ∨
        ∃ d ∈ dashboard, i = (.authenticated, [d]) := by
  cases home <;> cases login <;> cases dashboard <;> simp [itineraries]

/-- Where landmarks are kept, each itinerary stays, or goes on to a landmark that is new. -/
theorem exists_mem_itineraries {home login dashboard home' login' dashboard' : Option Node}
    (hhome : ∀ n ∈ home, n ∈ home') (hlogin : ∀ n ∈ login, n ∈ login')
    (hdashboard : ∀ n ∈ dashboard, n ∈ dashboard') {i : Audience × List Node}
    (hi : i ∈ itineraries home login dashboard) :
    ∃ i' ∈ itineraries home' login' dashboard', i'.1 = i.1 ∧ i.2 <+: i'.2 := by
  obtain ⟨h, hh, l, hl, rfl⟩ | ⟨d, hd, rfl⟩ := mem_itineraries_iff.1 hi
  · have hmore : dashboard.toList <+: dashboard'.toList := by
      cases dashboard with
      | none => exact List.nil_prefix
      | some d => exact (Option.mem_def.1 (hdashboard d rfl)) ▸ List.prefix_rfl
    refine ⟨_, mem_itineraries_iff.2 (.inl ⟨h, hhome h hh, l, hlogin l hl, rfl⟩), rfl, ?_⟩
    exact (List.prefix_append_right_inj _).2 hmore
  · exact ⟨_, mem_itineraries_iff.2 (.inr ⟨d, hdashboard d hd, rfl⟩), rfl, List.prefix_rfl⟩

/-- The steps of an itinerary are landmarks, and there is a first one. -/
theorem of_mem_itineraries {home login dashboard : Option Node} {i : Audience × List Node}
    (hi : i ∈ itineraries home login dashboard) :
    i.2 ≠ [] ∧ ∀ step ∈ i.2, step ∈ home ∨ step ∈ login ∨ step ∈ dashboard := by
  obtain ⟨h, hh, l, hl, rfl⟩ | ⟨d, hd, rfl⟩ := mem_itineraries_iff.1 hi
  · refine ⟨List.cons_ne_nil _ _, fun step hstep => ?_⟩
    obtain hstep | hstep := List.mem_append.1 hstep
    · obtain rfl | hstep := List.mem_cons.1 hstep
      · exact .inl hh
      · exact .inr (.inl (List.mem_singleton.1 hstep ▸ hl))
    · exact .inr (.inr (Option.mem_toList.1 hstep))
  · refine ⟨List.cons_ne_nil _ _, fun step hstep => ?_⟩
    exact .inr (.inr (List.mem_singleton.1 hstep ▸ hd))

/-- Journeys along steps that go on, for the same audience, start at the same node. -/
theorem startId_eq_of_prefix {j j' : Journey} {audience : Audience} {steps steps' : List Node}
    (h : j.LeadsAlong audience steps) (h' : j'.LeadsAlong audience steps') (hne : steps ≠ [])
    (hgrows : steps <+: steps') : j'.startId = j.startId := by
  obtain ⟨first, rest, rfl⟩ := List.exists_cons_of_ne_nil hne
  obtain ⟨more, rfl⟩ := hgrows
  exact Option.some.inj (h'.start_eq.symm.trans h.start_eq)

/-- A landmark that is found is found in a longer list as well. -/
theorem mem_append_of_isFirst {find? : List Node → Option Node}
    (hfind : ∀ nodes, IsFirst p nodes (find? nodes)) (nodes more : List Node) :
    ∀ n ∈ find? nodes, n ∈ find? (nodes ++ more) := by
  intro n hn
  have hfirst := hfind nodes
  rw [Option.mem_def.1 hn] at hfirst
  exact (hfind (nodes ++ more)).unique (hfirst.append more)

/-- The steps of a journey are nodes of the list. -/
theorem mem_of_mem_steps {j : Journey} (hj : j ∈ journeys nodes) {step : Node}
    (hstep : step ∈ j.steps) : step ∈ nodes := by
  obtain ⟨i, hi, hleads⟩ := exists_itinerary hj
  rw [hleads.steps_eq] at hstep
  obtain h | h | h := (of_mem_itineraries hi).2 step hstep <;> exact List.mem_of_find?_eq_some h

/-- **Each journey is still there in a longer list**, from the same start along the same steps. -/
theorem exists_later_journey {j : Journey} (hj : j ∈ journeys nodes) (more : List Node) :
    ∃ j' ∈ journeys (nodes ++ more),
      j'.audience = j.audience ∧ j'.startId = j.startId ∧ j.steps <+: j'.steps := by
  obtain ⟨i, hi, hleads⟩ := exists_itinerary hj
  obtain ⟨i', hi', haudience, hgrows⟩ := exists_mem_itineraries
    (mem_append_of_isFirst isFirst_home? nodes more)
    (mem_append_of_isFirst isFirst_login? nodes more)
    (mem_append_of_isFirst isFirst_dashboard? nodes more) hi
  obtain ⟨j', hj', hleads'⟩ := exists_journey hi'
  rw [haudience] at hleads'
  refine ⟨j', hj', hleads'.audience_eq.trans hleads.audience_eq.symm, ?_, ?_⟩
  · exact startId_eq_of_prefix hleads hleads' (of_mem_itineraries hi).1 hgrows
  · rw [hleads.steps_eq, hleads'.steps_eq]
    exact hgrows

/-- **Journeys lead along the first landmarks.**  The three landmarks alone decide which journeys
there are, along which steps, and where they start and end; their steps are nodes of the list.  A
list that grows keeps its landmarks, so each journey is still there, from the same start along the
same steps, and at most goes on to a dashboard that is new. -/
theorem journeys_lead_along (nodes more : List Node) :
    (IsFirst Node.IsStart nodes (home? nodes) ∧
      IsFirst (Node.Mentions "login") nodes (login? nodes) ∧
      IsFirst (Node.Mentions "dashboard") nodes (dashboard? nodes)) ∧
    List.Forall₂ (fun j i => j.LeadsAlong i.1 i.2) (journeys nodes)
      (itineraries (home? nodes) (login? nodes) (dashboard? nodes)) ∧
    (∀ j ∈ journeys nodes, ∀ step ∈ j.steps, step ∈ nodes) ∧
    ((∀ n ∈ home? nodes, n ∈ home? (nodes ++ more)) ∧
      (∀ n ∈ login? nodes, n ∈ login? (nodes ++ more)) ∧
      ∀ n ∈ dashboard? nodes, n ∈ dashboard? (nodes ++ more)) ∧
    ∀ j ∈ journeys nodes, ∃ j' ∈ journeys (nodes ++ more),
      j'.audience = j.audience ∧ j'.startId = j.startId ∧ j.steps <+: j'.steps := by
  refine ⟨⟨isFirst_home? nodes, isFirst_login? nodes, isFirst_dashboard? nodes⟩,
    forall₂_journeys nodes, ?_, ⟨?_, ?_, ?_⟩, ?_⟩
  · exact fun j hj step hstep => mem_of_mem_steps hj hstep
  · exact mem_append_of_isFirst isFirst_home? nodes more
  · exact mem_append_of_isFirst isFirst_login? nodes more
  · exact mem_append_of_isFirst isFirst_dashboard? nodes more
  · exact fun j hj => exists_later_journey hj more

end Graph

end NavGraph
