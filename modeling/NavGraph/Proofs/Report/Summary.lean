import Mathlib.Algebra.Ring.Nat
import NavGraph.Proofs.Text.Digit
import NavGraph.Proofs.Text.Trim
import NavGraph.Report.Summary

/-!
# What a summary tells

The first line of a summary tells figures of a result, and the line below it counts nodes by their
kinds.  Both lines can be read again: a number ends where something stands that is no digit, so
different figures, or different counts, never make the same line.

## Main definitions

* `Figures` - what the header of a summary tells of a result, and `Figures.header`, how it does
* `kindsText` - the line of some counts, or no line

## Main statements

* `Figures.header_inj`, `kindsText_inj` - figures and counts can be read off their lines
* `summaryHeader_eq`, `kindLines_eq` - the lines of a summary
* `sum_kindCounts` - the counts add up to all nodes
* `getD_lookup_kindCounts` - the count of a kind, which is zero where it is absent
-/

namespace NavGraph.Report

/-! ### Numbers in a text -/

/-- Characters that integers are written with. -/
def isNumeral (c : Char) : Bool := c.isDigit || c == '-'

theorem isNumeral_of_mem_decimal {n : Int} : ∀ c ∈ (decimal n).toList, isNumeral c = true := by
  intro c hc
  have hdigits : ∀ k : Nat, c ∈ Text.digitsOfNat k → isNumeral c = true := fun k hk => by
    rw [isNumeral, Text.isDigit_of_mem_digitsOfNat hk, Bool.true_or]
  rw [decimal, String.toList_ofList, Text.intText] at hc
  split at hc
  · obtain rfl | hc := List.mem_cons.1 hc
    · rfl
    · exact hdigits _ hc
  · exact hdigits _ hc

/-- Whether a number ends where a text begins. -/
def EndsNumber (text : List Char) : Prop := ∀ c ∈ text.head?, isNumeral c = false

instance : (text : List Char) → Decidable (EndsNumber text)
  | [] => isTrue nofun
  | c :: _ => decidable_of_iff (isNumeral c = false)
      ⟨fun h _ hd => Option.some.inj hd ▸ h, fun h => h c rfl⟩

/-- **A number is read up to where it ends.** -/
theorem decimal_append_inj {m n : Int} {back back' : List Char} (hback : EndsNumber back)
    (hback' : EndsNumber back')
    (h : (decimal m).toList ++ back = (decimal n).toList ++ back') : m = n ∧ back = back' := by
  have hdigits : (decimal m).toList = (decimal n).toList := by
    rw [← Text.takeWhile_append isNumeral_of_mem_decimal hback, h,
      Text.takeWhile_append isNumeral_of_mem_decimal hback']
  rw [hdigits] at h
  refine ⟨Text.intText_inj ?_, List.append_cancel_left h⟩
  simpa only [decimal, String.toList_ofList] using hdigits

/-- A number is read up to a label behind it. -/
theorem decimal_label_inj {label : String} {m n : Int} {back back' : List Char}
    (hne : label.toList ≠ []) (hlabel : EndsNumber label.toList)
    (h : (decimal m).toList ++ (label.toList ++ back) =
      (decimal n).toList ++ (label.toList ++ back')) : m = n ∧ back = back' := by
  have hends : ∀ back : List Char, EndsNumber (label.toList ++ back) := by
    intro back c hc
    obtain ⟨d, rest, hlist⟩ := List.exists_cons_of_ne_nil hne
    rw [hlist] at hc hlabel
    exact hlabel c hc
  obtain ⟨hm, htail⟩ := decimal_append_inj (hends back) (hends back') h
  exact ⟨hm, List.append_cancel_left htail⟩

/-! ### The header -/

/-- Figures of a result that the header of a summary tells. -/
structure Figures where
  nodes : Nat
  connections : Nat
  routes : Nat
  analyzedFiles : Int
  totalFiles : Int
  isDemo : Bool
  deriving DecidableEq, Repr

/-- What stands at the end of the header of demonstration data. -/
def demoFlag : String := " [demo data]"

/-- The header that tells figures of a repository. -/
def Figures.header (f : Figures) (name url : String) : String :=
  "Repository " ++ name ++ " (" ++ url ++ "): " ++ decimal f.nodes ++ " nodes, " ++
    decimal f.connections ++ " connections, " ++ decimal f.routes ++ " routes from " ++
    decimal f.analyzedFiles ++ "/" ++ decimal f.totalFiles ++ " files" ++
    if f.isDemo then demoFlag else ""

/-- Figures of a result. -/
def figuresOf (a : Analysis) : Figures where
  nodes := a.nodes.length
  connections := connectionCount a.nodes
  routes := a.routes.length
  analyzedFiles := a.analyzedFiles
  totalFiles := a.totalFiles
  isDemo := a.isDemo

theorem summaryHeader_eq (a : Analysis) :
    summaryHeader a = (figuresOf a).header a.repoName a.repoUrl := by
  unfold summaryHeader Figures.header demoFlag
  congr 1

/-- **Figures can be read off a header**, number by number. -/
theorem Figures.header_inj {f g : Figures} {name url : String}
    (h : f.header name url = g.header name url) : f = g := by
  have hlist := congrArg String.toList h
  unfold header at hlist
  simp only [String.toList_append, List.append_assoc] at hlist
  -- The words before the first number are the same, and so is the label behind each number.
  have hlist := List.append_cancel_left <| List.append_cancel_left <| List.append_cancel_left <|
    List.append_cancel_left <| List.append_cancel_left hlist
  obtain ⟨hnodes, hlist⟩ := decimal_label_inj (by decide +kernel) (by decide +kernel) hlist
  obtain ⟨hconnections, hlist⟩ := decimal_label_inj (by decide +kernel) (by decide +kernel) hlist
  obtain ⟨hroutes, hlist⟩ := decimal_label_inj (by decide +kernel) (by decide +kernel) hlist
  obtain ⟨hanalyzed, hlist⟩ := decimal_label_inj (by decide +kernel) (by decide +kernel) hlist
  obtain ⟨htotal, hlist⟩ := decimal_label_inj (by decide +kernel) (by decide +kernel) hlist
  have hdemo : f.isDemo = g.isDemo := by
    cases hf : f.isDemo <;> cases hg : g.isDemo
    · rfl
    · rw [hf, hg] at hlist
      exact absurd hlist (by decide +kernel)
    · rw [hf, hg] at hlist
      exact absurd hlist (by decide +kernel)
    · rfl
  cases f
  cases g
  simp only [Int.natCast_inj] at hnodes hconnections hroutes
  subst hnodes hconnections hroutes hanalyzed htotal hdemo
  rfl

/-- The mark stands at the end of the header exactly if the figures are those of demonstration
data: every other header ends in the word before it. -/
theorem Figures.demoFlag_suffix_iff {f : Figures} {name url : String} :
    demoFlag.toList <:+ (f.header name url).toList ↔ f.isDemo = true := by
  have hflag : demoFlag.toList.getLast? = some ']' := by decide +kernel
  have hfiles : " files".toList.getLast? = some 's' := by decide +kernel
  unfold header
  rw [String.toList_append]
  cases f.isDemo with
  | true => exact iff_of_true (List.suffix_append _ _) rfl
  | false =>
    refine iff_of_false (fun ⟨front, hfront⟩ => ?_) Bool.false_ne_true
    have hlast := congrArg List.getLast? hfront
    rw [if_neg Bool.false_ne_true, String.toList_empty, List.append_nil, String.toList_append,
      List.getLast?_append, List.getLast?_append, hflag, hfiles] at hlast
    cases hlast

/-! ### The line of kinds -/

/-- A kind and its count as they stand in the line of kinds. -/
def kindEntry (p : NodeKind × Nat) : String := p.1.name ++ "=" ++ decimal p.2

/-- The line of some counts; none without counts. -/
def kindsText : List (NodeKind × Nat) → List String
  | [] => []
  | p :: counts => ["  Kinds: " ++ joined ", " ((p :: counts).map kindEntry)]

theorem kindLines_eq (nodes : List Node) : kindLines nodes = kindsText (kindCounts nodes) := by
  unfold kindLines
  cases kindCounts nodes <;> rfl

/-- Counts behind the first one, each behind a comma. -/
def laterEntries (counts : List (NodeKind × Nat)) : List Char :=
  counts.flatMap fun p => ", ".toList ++ (kindEntry p).toList

theorem toList_joined_map_kindEntry (p : NodeKind × Nat) (counts : List (NodeKind × Nat)) :
    (joined ", " ((p :: counts).map kindEntry)).toList =
      (kindEntry p).toList ++ laterEntries counts := by
  rw [joined, String.toList_intercalate, List.map_cons, List.map_cons, Text.intercalate_cons,
    laterEntries, List.flatMap_map, List.flatMap_map]

theorem endsNumber_laterEntries (counts : List (NodeKind × Nat)) :
    EndsNumber (laterEntries counts) := by
  cases counts with
  | nil => nofun
  | cons p counts =>
    intro c hc
    obtain rfl : ',' = c := by simpa [laterEntries] using hc
    rfl

/-- A count is read up to the comma behind it. -/
theorem kindEntry_append_inj {p q : NodeKind × Nat} {counts counts' : List (NodeKind × Nat)}
    (h : (kindEntry p).toList ++ laterEntries counts =
      (kindEntry q).toList ++ laterEntries counts') :
    p = q ∧ laterEntries counts = laterEntries counts' := by
  obtain ⟨kind, count⟩ := p
  obtain ⟨kind', count'⟩ := q
  have hequals : "=".toList = ['='] := by decide +kernel
  have hname : ∀ k : NodeKind, ∀ c ∈ k.name.toList, (c != '=') = true := by
    intro k
    cases k <;> exact List.all_eq_true.1 rfl
  simp only [kindEntry, String.toList_append, List.append_assoc, hequals,
    List.singleton_append] at h
  obtain ⟨hkind, h⟩ := Text.append_cons_inj (· != '=') (hname kind) (hname kind') rfl rfl h
  obtain ⟨hcount, hlater⟩ :=
    decimal_append_inj (endsNumber_laterEntries _) (endsNumber_laterEntries _) h
  obtain rfl : kind = kind' := by
    have := congrArg NodeKind.ofName? (String.toList_inj.1 hkind)
    simpa using this
  exact ⟨by rw [Int.natCast_inj.1 hcount], hlater⟩

theorem laterEntries_inj {counts counts' : List (NodeKind × Nat)}
    (h : laterEntries counts = laterEntries counts') : counts = counts' := by
  induction counts generalizing counts' with
  | nil =>
    cases counts' with
    | nil => rfl
    | cons q counts' => exact absurd h (by simp [laterEntries])
  | cons p counts ih =>
    cases counts' with
    | nil => exact absurd h (by simp [laterEntries])
    | cons q counts' =>
      rw [laterEntries, laterEntries, List.flatMap_cons, List.flatMap_cons, List.append_assoc,
        List.append_assoc] at h
      obtain ⟨rfl, hlater⟩ := kindEntry_append_inj (List.append_cancel_left h)
      rw [ih hlater]

/-- **Counts can be read off their line**, entry by entry. -/
theorem kindsText_inj {counts counts' : List (NodeKind × Nat)}
    (h : kindsText counts = kindsText counts') : counts = counts' := by
  cases counts with
  | nil =>
    cases counts' with
    | nil => rfl
    | cons q counts' => cases h
  | cons p counts =>
    cases counts' with
    | nil => cases h
    | cons q counts' =>
      have hline := congrArg String.toList (List.cons.inj h).1
      rw [String.toList_append, String.toList_append, toList_joined_map_kindEntry,
        toList_joined_map_kindEntry] at hline
      obtain ⟨rfl, hlater⟩ := kindEntry_append_inj (List.append_cancel_left hline)
      rw [laterEntries_inj hlater]

/-- A summary begins with its header and the line of kinds. -/
theorem exists_lines_summary (a : Analysis) :
    ∃ lines, summary a = joined "\n" (summaryHeader a :: (kindLines a.nodes ++ lines)) := by
  refine ⟨a.journeys.map journeyLine ++ ([""] ++
    a.nodes.map (nodeParagraph (displayNames a.nodes))), ?_⟩
  rw [summary, List.append_assoc, List.append_assoc, List.append_assoc, List.singleton_append]

/-! ### Counts of kinds -/

/-- The kinds, in the order of their names. -/
def allKinds : List NodeKind := [.component, .layout, .modal, .page, .redirect]

/-- How many nodes there are of a kind, unless there are none. -/
def kindCount? (nodes : List Node) (kind : NodeKind) : Option (NodeKind × Nat) :=
  match nodes.countP (·.kind == kind) with
  | 0 => none
  | n + 1 => some (kind, n + 1)

theorem kindCounts_eq (nodes : List Node) :
    kindCounts nodes = allKinds.filterMap (kindCount? nodes) := rfl

variable {nodes : List Node} {kind : NodeKind}

theorem kindCount?_eq_none (h : nodes.countP (·.kind == kind) = 0) :
    kindCount? nodes kind = none := by
  rw [kindCount?, h]

theorem kindCount?_eq_some {n : Nat} (h : nodes.countP (·.kind == kind) = n + 1) :
    kindCount? nodes kind = some (kind, n + 1) := by
  rw [kindCount?, h]

/-- Kinds of no node are left out of a sum of counts. -/
theorem sum_filterMap_kindCount? (kinds : List NodeKind) :
    ((kinds.filterMap (kindCount? nodes)).map (·.2)).sum =
      (kinds.map fun kind => nodes.countP (·.kind == kind)).sum := by
  induction kinds with
  | nil => rfl
  | cons kind kinds ih =>
    rw [List.map_cons, List.sum_cons]
    cases hcount : nodes.countP (·.kind == kind) with
    | zero => rw [List.filterMap_cons_none (kindCount?_eq_none hcount), ih, Nat.zero_add]
    | succ n =>
      rw [List.filterMap_cons_some (kindCount?_eq_some hcount), List.map_cons, List.sum_cons, ih]

/-- **The counts of a line add up to all nodes**: a node is of one kind. -/
theorem sum_kindCounts (nodes : List Node) : ((kindCounts nodes).map (·.2)).sum = nodes.length := by
  rw [kindCounts_eq, sum_filterMap_kindCount?]
  induction nodes with
  | nil => rfl
  | cons n nodes ih =>
    simp only [allKinds, List.map_cons, List.map_nil, List.sum_cons, List.sum_nil,
      List.countP_cons, List.length_cons] at ih ⊢
    cases n.kind <;> simp <;> omega

theorem lookup_filterMap_kindCount? (kinds : List NodeKind) :
    ((kinds.filterMap (kindCount? nodes)).lookup kind).getD 0 =
      if kind ∈ kinds then nodes.countP (·.kind == kind) else 0 := by
  induction kinds with
  | nil => rfl
  | cons first kinds ih =>
    cases hcount : nodes.countP (·.kind == first) with
    | zero =>
      rw [List.filterMap_cons_none (kindCount?_eq_none hcount), ih]
      by_cases hkind : kind = first
      · simp [hkind, hcount]
      · simp [hkind]
    | succ n =>
      rw [List.filterMap_cons_some (kindCount?_eq_some hcount), List.lookup_cons]
      by_cases hkind : kind = first
      · simp [hkind, hcount]
      · simp [hkind, beq_false_of_ne hkind, ih]

/-- **The count of a kind is the number of its nodes**, which is zero where the line has none. -/
theorem getD_lookup_kindCounts (nodes : List Node) (kind : NodeKind) :
    ((kindCounts nodes).lookup kind).getD 0 = nodes.countP (·.kind == kind) := by
  have hmem : kind ∈ allKinds := by cases kind <;> decide
  rw [kindCounts_eq, lookup_filterMap_kindCount?, if_pos hmem]

end NavGraph.Report
