import NavGraph.Proofs.Host.Address

/-!
# Queries behind an address

What a browser shows of a page of the host may go on behind the path with a query or a fragment.
The pattern for addresses does not know of either: such a suffix is ignored where it stands in a
path behind the name or the branch, and is otherwise taken for more of the name or the branch that
the address ends in.

## Main definitions

* `IsQuery` - a query or a fragment
* `EndsOpen` - an address that ends in its name, or in the place of its branch

## Main statements

* `ofAddress_append_query` - a suffix leaves an address alone exactly if it does not end open
* `not_ofAddress_ignores_query` - an address that a suffix changes
-/

namespace NavGraph

variable {text path branch front back name stem suffix : List Char} {c : Char}

/-! ### Suffixes -/

/-- A query or a fragment: a question mark or a number sign and anything but blanks. -/
def IsQuery (text : List Char) : Prop :=
  (∃ mark tail, text = mark :: tail ∧ (mark = '?' ∨ mark = '#')) ∧
    ∀ c ∈ text, Text.isBlank c = false

instance : (text : List Char) → Decidable (IsQuery text)
  | [] => isFalse fun h => by
    obtain ⟨⟨mark, tail, htext, -⟩, -⟩ := h
    cases htext
  | mark :: tail =>
    @decidable_of_iff _ ((mark = '?' ∨ mark = '#') ∧ ∀ c ∈ mark :: tail, Text.isBlank c = false)
      ⟨fun h => ⟨⟨mark, tail, rfl, h.1⟩, h.2⟩, fun h => by
        obtain ⟨⟨mark', tail', htext, hmark⟩, hblank⟩ := h
        cases htext
        exact ⟨hmark, hblank⟩⟩
      (@instDecidableAnd _ _ _ (List.decidableBAll _ (mark :: tail)))

/-- A text in which no query begins, and no blank stands. -/
def IsBare (text : List Char) : Prop :=
  ∀ c ∈ text, Text.isBlank c = false ∧ c ≠ '?' ∧ c ≠ '#'

instance (text : List Char) : Decidable (IsBare text) := List.decidableBAll _ text

/-- The part of a suffix that goes on with what stands before it. -/
def firstPart (suffix : List Char) : List Char := suffix.takeWhile (· != '/')

/-- A path that ends where its branch stands, or would stand. -/
def IsOpenTree (path branch : List Char) : Prop :=
  ∃ word, path = word ++ branch ∧ word.map Text.foldAscii = "/tree/".toList ∧ '/' ∉ branch

/-- **An address that ends in its name, or in the place of its branch.** -/
def EndsOpen (text : List Char) : Prop :=
  ∃ a : Address, a.spelling = text ∧ (a.path = [] ∨ ∃ branch, IsOpenTree a.path branch)

/-! ### Branches under longer paths -/

/-- A path that names a branch, and is longer than another one, names the branch of the other one or
goes on where the other one ends. -/
theorem IsTree.of_append (h : IsTree (front ++ back) branch) : IsTree front branch ∨
    ∃ word taken deeper, word.map Text.foldAscii = "/tree/".toList ∧ IsPart branch ∧
      word ++ branch = front ++ taken ∧ back = taken ++ deeper ∧ taken ≠ [] := by
  obtain ⟨word, deeper, heq, hword, hbranch, hdeeper⟩ := h
  rw [← List.append_assoc] at heq
  rcases List.append_eq_append_iff.1 heq with ⟨taken, htaken, hback⟩ | ⟨kept, hkept, hdeep⟩
  · by_cases hnil : taken = []
    · subst hnil
      rw [List.append_nil] at htaken
      exact .inl ⟨word, [], by rw [List.append_nil, htaken], hword, hbranch, .inl rfl⟩
    · exact .inr ⟨word, taken, deeper, hword, hbranch, htaken, hback, hnil⟩
  · have hpath : IsPath kept := hdeeper.of_isPrefix (hdeep ▸ List.prefix_append kept back)
    exact .inl ⟨word, kept, by rw [hkept, List.append_assoc], hword, hbranch, hpath⟩

/-- What is put behind a path that goes on below its branch leaves the branch. -/
theorem IsTree.append (h : IsTree front branch) (hopen : ∀ B, ¬ IsOpenTree front B)
    (hback : '\n' ∉ back) : IsTree (front ++ back) branch := by
  obtain ⟨word, deeper, rfl, hword, hbranch, hdeeper⟩ := h
  rcases hdeeper with rfl | ⟨below, rfl, hbelow⟩
  · refine absurd ⟨word, by rw [List.append_nil], hword, fun hmem => ?_⟩ (hopen branch)
    exact (hbranch.2 _ hmem).1 rfl
  · refine ⟨word, '/' :: (below ++ back), by simp, hword, hbranch, ?_⟩
    exact .inr ⟨_, rfl, List.not_mem_append hbelow hback⟩

/-- Slashes behind a path leave its branch. -/
theorem isTree_append_slashes (count : Nat) :
    IsTree (path ++ List.replicate count '/') branch ↔ IsTree path branch := by
  constructor
  · intro h
    rcases h.of_append with h | ⟨word, taken, deeper, -, hbranch, htaken, hslashes, hne⟩
    · exact h
    · -- the branch would end in a slash
      have hlast := List.getLast?_eq_some_getLast hbranch.1
      have hends := congrArg List.getLast? htaken
      rw [List.getLast?_append, List.getLast?_append, hlast, Option.some_or,
        List.getLast?_eq_some_getLast hne, Option.some_or, Option.some_inj] at hends
      have hmem : taken.getLast hne ∈ List.replicate count '/' :=
        hslashes ▸ List.mem_append_left deeper (List.getLast_mem hne)
      have hslash := (hbranch.2 _ (List.getLast_mem hbranch.1)).1
      exact absurd (hends.trans (List.eq_of_mem_replicate hmem)) hslash
  · rintro ⟨word, deeper, rfl, hword, hbranch, hdeeper⟩
    exact ⟨word, _, by simp, hword, hbranch, hdeeper.append_slashes count⟩

theorem branchOf_append_slashes (count : Nat) :
    BranchOf (path ++ List.replicate count '/') branch ↔ BranchOf path branch := by
  constructor
  · rintro (h | h)
    · exact .named ((isTree_append_slashes count).1 h)
    · exact .default fun branch htree => h branch ((isTree_append_slashes count).2 htree)
  · rintro (h | h)
    · exact .named ((isTree_append_slashes count).2 h)
    · exact .default fun branch htree => h branch ((isTree_append_slashes count).1 htree)

/-- A suffix behind a path that does not end in the place of its branch leaves the branch. -/
theorem BranchOf.append_query (h : BranchOf path branch) (hopen : ∀ B, ¬ IsOpenTree path B)
    (hsuffix : IsQuery suffix) : BranchOf (path ++ suffix) branch := by
  obtain ⟨⟨mark, tail, rfl, hmark⟩, hblank⟩ := hsuffix
  have hline : '\n' ∉ mark :: tail := fun hmem => absurd (hblank _ hmem) (by decide)
  cases h with
  | named isTree => exact .named (isTree.append hopen hline)
  | default without =>
    refine .default fun branch htree => ?_
    rcases htree.of_append with h | ⟨word, taken, deeper, hword, hbranch, heq, hback, hne⟩
    · exact without branch h
    · -- the branch goes on with the mark, which is not in the word before it
      rcases List.append_eq_append_iff.1 heq with ⟨kept, hkept, hgoes⟩ | ⟨kept, hkept, htaken⟩
      · refine hopen kept ⟨word, hkept, hword, fun hmem => ?_⟩
        exact (hbranch.2 _ (hgoes ▸ List.mem_append_left taken hmem)).1 rfl
      · cases kept with
        | nil =>
          rw [List.append_nil] at hkept
          exact hopen [] ⟨word, by rw [hkept, List.append_nil], hword, List.not_mem_nil⟩
        | cons d kept =>
          rw [htaken] at hback
          obtain rfl := (List.cons.inj hback).1
          have hmem : mark ∈ word := hkept ▸ List.mem_append_right path List.mem_cons_self
          have hfold := List.mem_map_of_mem (f := Text.foldAscii) hmem
          rw [hword] at hfold
          rcases hmark with rfl | rfl <;> exact absurd hfold (by decide)

/-! ### Addresses without blanks -/

/-- An address without blanks ends in its path. -/
theorem Address.lineEnd_eq_nil (a : Address) (h : ∀ c ∈ a.spelling, Text.isBlank c = false) :
    a.lineEnd = [] := by
  rcases a.isLineEnd with hend | hend
  · exact hend
  · have := h '\n' (by simp [spelling, hend])
    cases this

/-- Of an address without blanks only slashes are cut off, and they change nothing. -/
theorem Address.exists_cleaned (a : Address) (h : ∀ c ∈ a.spelling, Text.isBlank c = false) :
    ∃ a' : Address, a'.spelling = (cleanAddress (some (String.ofList a.spelling))).toList ∧
      a'.owner = a.owner ∧ a'.name = a.name ∧
        ∀ branch, BranchOf a'.path branch ↔ BranchOf a.path branch := by
  have hend := a.lineEnd_eq_nil h
  obtain ⟨count, hpath⟩ := Text.exists_eq_trimEndWhile_append '/' a.path
  have hsolid : Text.trimEndWhile Text.isBlank a.path = a.path :=
    Text.trimEndWhile_eq_self fun c hc => h c (by simp [spelling, hc])
  have hnone : ∀ c ∈ ([] : List Char), Text.isBlank c = true :=
    List.forall_mem_nil _
  have hclean := cleanAddress_eq a.path hnone hnone (a.isHost.head?_append (a.owner ++ ['/']))
    a.isName
  rw [hsolid] at hclean
  refine ⟨⟨a.host, a.owner, a.name, _, [], a.isHost, a.isOwner, a.isName,
    a.isPath.of_isPrefix (Text.prefix_trimEndWhile (p := (· == '/'))), .inl rfl⟩,
    ?_, rfl, rfl, fun branch => ?_⟩
  · simpa [spelling, hend] using hclean.symm
  · rw [← branchOf_append_slashes count, ← hpath]

/-- What names a repository and has no blanks is spelled like an address as it stands. -/
theorem exists_address_of_ofAddress {u : String} {r : Repository}
    (h : ∀ c ∈ u.toList, Text.isBlank c = false) (hr : Repository.ofAddress (some u) = .ok r) :
    ∃ a : Address, a.spelling = u.toList := by
  obtain ⟨-, a, ha, -⟩ := ofAddress_eq_ok_iff.1 hr
  obtain ⟨count, hcount⟩ := Text.exists_eq_trimEndWhile_append '/' u.toList
  rw [cleanAddress, Option.getD_some, String.toList_ofList, Text.trim_eq_self h] at ha
  have hend : a.lineEnd = [] := a.lineEnd_eq_nil fun c hc =>
    h c (Text.prefix_trimEndWhile.subset (ha ▸ hc))
  refine ⟨⟨a.host, a.owner, a.name, a.path ++ List.replicate count '/', [], a.isHost, a.isOwner,
    a.isName, a.isPath.append_slashes count, .inl rfl⟩, ?_⟩
  rw [hcount, ← ha]
  simp [Address.spelling, hend]

section

variable {u : String} {r : Repository} {a : Address}

/-- Whatever a text without blanks names, it is what its parts name. -/
theorem Address.names_of_ofAddress (ha : a.spelling = u.toList)
    (h : ∀ c ∈ u.toList, Text.isBlank c = false) (hr : Repository.ofAddress (some u) = .ok r) :
    a.name ≠ gitEnding ∧ a.Names r := by
  obtain ⟨a', ha', howner, hname, hbranch⟩ := a.exists_cleaned (ha ▸ h)
  rw [ha, String.ofList_toList] at ha'
  by_cases hending : a'.name = gitEnding
  · rw [ofAddress_gitEnding a' ha' hending] at hr
    cases hr
  · obtain ⟨r', hr', -, hnames⟩ := ofAddress_spelling a' ha' hending
    obtain rfl := Except.ok.inj (hr'.symm.trans hr)
    rw [← hname]
    exact ⟨hending, howner ▸ hnames.owner_eq, hname ▸ hnames.losesEnding,
      (hbranch _).1 hnames.branchOf⟩

theorem Address.exists_ofAddress (ha : a.spelling = u.toList)
    (h : ∀ c ∈ u.toList, Text.isBlank c = false) (hname : a.name ≠ gitEnding) :
    ∃ r, Repository.ofAddress (some u) = .ok r := by
  obtain ⟨a', ha', -, hname', -⟩ := a.exists_cleaned (ha ▸ h)
  rw [ha, String.ofList_toList] at ha'
  obtain ⟨r, hr, -⟩ := ofAddress_spelling a' ha' (hname' ▸ hname)
  exact ⟨r, hr⟩

end

/-! ### Where a suffix goes -/

theorem firstPart_append_drop (suffix : List Char) :
    firstPart suffix ++ suffix.dropWhile (· != '/') = suffix := List.takeWhile_append_dropWhile

theorem IsQuery.not_mem_lineFeed (h : IsQuery suffix) : '\n' ∉ suffix :=
  fun hmem => absurd (h.2 _ hmem) (by decide)

/-- The first part of a query or a fragment goes on with a name or a branch. -/
theorem IsQuery.isSegment (h : IsQuery suffix) :
    ∀ c ∈ firstPart suffix, c ≠ '/' ∧ Text.isBlank c = false := fun c hc =>
  ⟨by simpa using List.all_eq_true.1 List.all_takeWhile c hc, h.2 c (List.takeWhile_subset _ hc)⟩

/-- What stands behind the first part is a path. -/
theorem IsQuery.isPath (h : IsQuery suffix) : IsPath (suffix.dropWhile (· != '/')) := by
  cases hdrop : suffix.dropWhile (· != '/') with
  | nil => exact .inl rfl
  | cons c below =>
    have hc := List.head_dropWhile_not (· != '/') (l := suffix) (by simp [hdrop])
    simp only [hdrop, List.head_cons, bne_eq_false_iff_eq] at hc
    subst hc
    refine .inr ⟨below, rfl, fun hmem => h.not_mem_lineFeed ?_⟩
    exact List.dropWhile_subset (· != '/') (hdrop ▸ List.mem_cons_of_mem _ hmem)

/-- A query or a fragment has its mark in its first part. -/
theorem IsQuery.exists_mark (h : IsQuery suffix) :
    ∃ mark ∈ firstPart suffix, mark = '?' ∨ mark = '#' := by
  obtain ⟨⟨mark, tail, rfl, hmark⟩, -⟩ := h
  refine ⟨mark, ?_, hmark⟩
  rw [firstPart, List.takeWhile_cons_of_pos (by rcases hmark with rfl | rfl <;> decide)]
  exact List.mem_cons_self

/-- A suffix behind the name is more of the name, up to its first slash. -/
theorem Address.exists_append_name (a : Address) (hpath : a.path = []) (hend : a.lineEnd = [])
    (hsuffix : IsQuery suffix) : ∃ a' : Address, a'.spelling = a.spelling ++ suffix ∧
      a'.owner = a.owner ∧ a'.name = a.name ++ firstPart suffix := by
  have hname : IsPart (a.name ++ firstPart suffix) :=
    ⟨List.append_ne_nil_of_left_ne_nil a.isName.1 _,
      List.forall_mem_append.2 ⟨a.isName.2, hsuffix.isSegment⟩⟩
  refine ⟨⟨a.host, a.owner, _, _, [], a.isHost, a.isOwner, hname, hsuffix.isPath, .inl rfl⟩, ?_,
    rfl, rfl⟩
  simp [spelling, hpath, hend, firstPart_append_drop]

/-- A suffix behind a path is more of the path. -/
theorem Address.exists_append_path (a : Address) (hpath : a.path ≠ []) (hend : a.lineEnd = [])
    (hsuffix : IsQuery suffix) : ∃ a' : Address, a'.spelling = a.spelling ++ suffix ∧
      a'.owner = a.owner ∧ a'.name = a.name ∧ a'.path = a.path ++ suffix := by
  obtain ⟨below, hbelow, hlines⟩ := a.isPath.resolve_left hpath
  refine ⟨⟨a.host, a.owner, a.name, a.path ++ suffix, [], a.isHost, a.isOwner, a.isName, ?_,
    .inl rfl⟩, ?_, rfl, rfl, rfl⟩
  · rw [hbelow]
    exact .inr ⟨_, rfl, List.not_mem_append hlines hsuffix.not_mem_lineFeed⟩
  · simp [spelling, hend]

/-! ### What an address with a suffix names -/

theorem LosesGitEnding.mem_iff (h : LosesGitEnding name stem) (hc : c ∉ gitEnding) :
    c ∈ stem ↔ c ∈ name := by
  cases h with
  | ending => simp [hc]
  | whole without => rfl

/-- What a branch is made of is in the path, unless the path names none. -/
theorem BranchOf.mem (h : BranchOf path branch) (hc : c ∈ branch) :
    c ∈ path ∨ c ∈ "main".toList := by
  cases h with
  | named isTree =>
    obtain ⟨word, deeper, rfl, -⟩ := isTree
    simp [hc]
  | default without => exact .inr hc

section

variable {u s : String} {r r' : Repository} {a : Address}

theorem not_blank_of_mem_append (hu : IsBare u.toList) (hs : IsQuery s.toList) :
    ∀ c ∈ (u ++ s).toList, Text.isBlank c = false := by
  rw [String.toList_append]
  exact List.forall_mem_append.2 ⟨fun c hc => (hu c hc).1, hs.2⟩

/-- An address that ends in its name goes on with the name. -/
theorem Address.name_of_append (ha : a.spelling = u.toList) (hu : IsBare u.toList)
    (hs : IsQuery s.toList) (hpath : a.path = []) : ∃ a' : Address,
      a'.spelling = (u ++ s).toList ∧ a'.owner = a.owner ∧
        a'.name = a.name ++ firstPart s.toList := by
  have hend := a.lineEnd_eq_nil fun c hc => (hu c (ha ▸ hc)).1
  rw [String.toList_append, ← ha]
  exact a.exists_append_name hpath hend hs

/-- Any other address goes on with its path. -/
theorem Address.path_of_append (ha : a.spelling = u.toList) (hu : IsBare u.toList)
    (hs : IsQuery s.toList) (hpath : a.path ≠ []) : ∃ a' : Address,
      a'.spelling = (u ++ s).toList ∧ a'.owner = a.owner ∧ a'.name = a.name ∧
        a'.path = a.path ++ s.toList := by
  have hend := a.lineEnd_eq_nil fun c hc => (hu c (ha ▸ hc)).1
  rw [String.toList_append, ← ha]
  exact a.exists_append_path hpath hend hs

/-- With a suffix, an address names a repository of the same owner. -/
theorem Address.exists_ofAddress_append (ha : a.spelling = u.toList) (hu : IsBare u.toList)
    (hs : IsQuery s.toList) (hname : a.name ≠ gitEnding) :
    ∃ r', Repository.ofAddress (some (u ++ s)) = .ok r' ∧ r'.owner.toList = a.owner := by
  have hsolid := not_blank_of_mem_append hu hs
  obtain ⟨a', ha', howner, hname'⟩ : ∃ a' : Address, a'.spelling = (u ++ s).toList ∧
      a'.owner = a.owner ∧ a'.name ≠ gitEnding := by
    by_cases hpath : a.path = []
    · obtain ⟨a', ha', howner, hname'⟩ := a.name_of_append ha hu hs hpath
      refine ⟨a', ha', howner, fun hending => ?_⟩
      obtain ⟨mark, hmem, hmark⟩ := hs.exists_mark
      have hin : mark ∈ gitEnding := hending ▸ hname' ▸ List.mem_append_right a.name hmem
      rcases hmark with rfl | rfl <;> exact absurd hin (by decide)
    · obtain ⟨a', ha', howner, hname', -⟩ := a.path_of_append ha hu hs hpath
      exact ⟨a', ha', howner, hname' ▸ hname⟩
  obtain ⟨r', hr'⟩ := exists_ofAddress ha' hsolid hname'
  have hnames := (names_of_ofAddress ha' hsolid hr').2
  exact ⟨r', hr', hnames.owner_eq.trans howner⟩

/-- **Where an address ends in its name**, the suffix is taken for more of it. -/
theorem Address.name_append_query (ha : a.spelling = u.toList) (hu : IsBare u.toList)
    (hs : IsQuery s.toList) (hr' : Repository.ofAddress (some (u ++ s)) = .ok r')
    (hpath : a.path = []) : LosesGitEnding (a.name ++ firstPart s.toList) r'.name.toList := by
  obtain ⟨a', ha', -, hname⟩ := a.name_of_append ha hu hs hpath
  rw [← hname]
  exact (names_of_ofAddress ha' (not_blank_of_mem_append hu hs) hr').2.losesEnding

/-- **Where an address ends in the place of its branch**, the suffix is taken for more of it. -/
theorem Address.branch_append_query (ha : a.spelling = u.toList) (hu : IsBare u.toList)
    (hs : IsQuery s.toList) (hr' : Repository.ofAddress (some (u ++ s)) = .ok r')
    (hpath : IsOpenTree a.path branch) :
    LosesGitEnding a.name r'.name.toList ∧ r'.branch.toList = branch ++ firstPart s.toList := by
  obtain ⟨word, hword, hfold, hslash⟩ := hpath
  have hne : a.path ≠ [] := by
    intro hnil
    obtain ⟨rfl, -⟩ := List.append_eq_nil_iff.1 (hword.symm.trans hnil)
    cases hfold
  obtain ⟨a', ha', -, hname, hpath⟩ := a.path_of_append ha hu hs hne
  have hnames := (names_of_ofAddress ha' (not_blank_of_mem_append hu hs) hr').2
  refine ⟨hname ▸ hnames.losesEnding, ?_⟩
  have hbranch : IsPart (branch ++ firstPart s.toList) := by
    refine ⟨fun hnil => ?_, List.forall_mem_append.2 ⟨fun c hc => ⟨?_, ?_⟩, hs.isSegment⟩⟩
    · obtain ⟨mark, hmark, -⟩ := hs.exists_mark
      rw [(List.append_eq_nil_iff.1 hnil).2] at hmark
      cases hmark
    · rintro rfl
      exact hslash hc
    · exact (hu c (ha ▸ by simp [spelling, hword, hc])).1
  have htree : IsTree a'.path (branch ++ firstPart s.toList) := by
    refine ⟨word, s.toList.dropWhile (· != '/'), ?_, hfold, hbranch, hs.isPath⟩
    rw [hpath, hword, List.append_assoc, List.append_assoc, firstPart_append_drop]
  exact hnames.branchOf.unique (.named htree)

/-- **Where an address ends elsewhere**, the suffix is ignored. -/
theorem Address.ignores_query (ha : a.spelling = u.toList) (hu : IsBare u.toList)
    (hs : IsQuery s.toList) (hr' : Repository.ofAddress (some (u ++ s)) = .ok r')
    (hpath : a.path ≠ []) (hopen : ∀ B, ¬ IsOpenTree a.path B) (hbranch : BranchOf a.path branch) :
    LosesGitEnding a.name r'.name.toList ∧ r'.branch.toList = branch := by
  obtain ⟨a', ha', -, hname, hpath'⟩ := a.path_of_append ha hu hs hpath
  have hnames := (names_of_ofAddress ha' (not_blank_of_mem_append hu hs) hr').2
  refine ⟨hname ▸ hnames.losesEnding, hnames.branchOf.unique ?_⟩
  rw [hpath']
  exact hbranch.append_query hopen hs

/-- A suffix that is taken for something else changes it: its mark stands in no part of an address
without any. -/
theorem Address.ne_of_endsOpen (ha : a.spelling = u.toList) (hu : IsBare u.toList)
    (hs : IsQuery s.toList) (hr : Repository.ofAddress (some u) = .ok r)
    (hr' : Repository.ofAddress (some (u ++ s)) = .ok r')
    (hopen : a.path = [] ∨ ∃ B, IsOpenTree a.path B) :
    ¬ (r'.name = r.name ∧ r'.branch = r.branch) := by
  rintro ⟨hname, hbranch⟩
  obtain ⟨-, hnames⟩ := names_of_ofAddress ha (fun c hc => (hu c hc).1) hr
  obtain ⟨mark, hmem, hmark⟩ := hs.exists_mark
  have hbare : mark ∉ a.spelling := by
    rw [ha]
    intro hin
    rcases hmark with rfl | rfl
    · exact (hu _ hin).2.1 rfl
    · exact (hu _ hin).2.2 rfl
  rcases hopen with hpath | ⟨B, htree⟩
  · have hloses := a.name_append_query ha hu hs hr' hpath
    have hgit : mark ∉ gitEnding := by rcases hmark with rfl | rfl <;> decide
    have hin := (hloses.mem_iff hgit).2 (List.mem_append_right _ hmem)
    rw [hname, hnames.losesEnding.mem_iff hgit] at hin
    exact hbare (by simp [spelling, hin])
  · have hends := (a.branch_append_query ha hu hs hr' htree).2
    have hin : mark ∈ r.branch.toList := by
      rw [← hbranch, hends]
      exact List.mem_append_right _ hmem
    rcases hnames.branchOf.mem hin with hin | hin
    · exact hbare (by simp [spelling, hin])
    · rcases hmark with rfl | rfl <;> exact absurd hin (by decide)

end

/-- **What a query or a fragment changes.**  Behind an address without blanks, question marks and
number signs, it leaves the owner; and it leaves the name and the branch exactly if the address does
not end in its name or in the place of its branch.  If it does, the suffix goes on with it up to its
first slash. -/
theorem ofAddress_append_query {u s : String} {r : Repository} (hu : IsBare u.toList)
    (hs : IsQuery s.toList) (hr : Repository.ofAddress (some u) = .ok r) :
    ∃ r', Repository.ofAddress (some (u ++ s)) = .ok r' ∧ r'.owner = r.owner ∧
      (r'.name = r.name ∧ r'.branch = r.branch ↔ ¬ EndsOpen u.toList) ∧
      (∀ a : Address, a.spelling = u.toList → a.path = [] →
        LosesGitEnding (a.name ++ firstPart s.toList) r'.name.toList) ∧
      ∀ (a : Address) B, a.spelling = u.toList → IsOpenTree a.path B →
        r'.name = r.name ∧ r'.branch.toList = B ++ firstPart s.toList := by
  have hsolid : ∀ c ∈ u.toList, Text.isBlank c = false := fun c hc => (hu c hc).1
  have hnames : ∀ {a : Address}, a.spelling = u.toList → a.name ≠ gitEnding ∧ a.Names r :=
    fun ha => Address.names_of_ofAddress ha hsolid hr
  have hsame : ∀ {a : Address} {r' : Repository}, a.spelling = u.toList →
      LosesGitEnding a.name r'.name.toList → r'.name = r.name := fun ha hloses =>
    String.toList_inj.1 (hloses.unique (hnames ha).2.losesEnding)
  obtain ⟨a, ha⟩ := exists_address_of_ofAddress hsolid hr
  obtain ⟨r', hr', howner⟩ := a.exists_ofAddress_append ha hu hs (hnames ha).1
  refine ⟨r', hr', String.toList_inj.1 (howner.trans (hnames ha).2.owner_eq.symm), ⟨?_, ?_⟩, ?_, ?_⟩
  · rintro hkept ⟨b, hb, hopen⟩
    exact b.ne_of_endsOpen hb hu hs hr hr' hopen hkept
  · intro hclosed
    have hpath : a.path ≠ [] := fun hnil => hclosed ⟨a, ha, .inl hnil⟩
    have hopen : ∀ B, ¬ IsOpenTree a.path B := fun B htree => hclosed ⟨a, ha, .inr ⟨B, htree⟩⟩
    obtain ⟨hname, hbranch⟩ := a.ignores_query ha hu hs hr' hpath hopen (hnames ha).2.branchOf
    exact ⟨hsame ha hname, String.toList_inj.1 hbranch⟩
  · exact fun b hb hpath => b.name_append_query hb hu hs hr' hpath
  · intro b B hb htree
    obtain ⟨hname, hbranch⟩ := b.branch_append_query hb hu hs hr' htree
    exact ⟨hsame hb hname, hbranch⟩

/-- In particular behind a name. -/
theorem ofAddress_append_query_shop :
    ∃ r', Repository.ofAddress (some ("github.com/acme/shop" ++ "?tab=a/b")) = .ok r' ∧
      r'.owner = "acme" ∧ r'.name = "shop?tab=a" := by
  have hs : IsQuery "?tab=a/b".toList := by decide
  let a : Address := ⟨"github.com/".toList, "acme".toList, "shop".toList, [], [],
    by decide +kernel, by decide, by decide, .inl rfl, .inl rfl⟩
  have ha : a.spelling = "github.com/acme/shop".toList := by
    show "github.com/".toList ++ ("acme".toList ++ '/' :: ("shop".toList ++ ([] ++ []))) = _
    decide
  have hr : Repository.ofAddress (some "github.com/acme/shop") =
      .ok ⟨"github.com/acme/shop", "acme", "shop", "main"⟩ := rfl
  obtain ⟨r', hr', howner, -, hname, -⟩ := ofAddress_append_query (by decide) hs hr
  have hloses : LosesGitEnding "shop?tab=a".toList r'.name.toList := hname a ha rfl
  exact ⟨r', hr', howner, String.toList_inj.1 (hloses.unique (.whole (by decide)))⟩

/-- **A query can change the name**: it does if the address ends in it. -/
theorem not_ofAddress_ignores_query :
    ¬ ∀ (u s : String) r, IsBare u.toList → IsQuery s.toList →
      Repository.ofAddress (some u) = .ok r →
        ∃ r', Repository.ofAddress (some (u ++ s)) = .ok r' ∧ r'.owner = r.owner ∧
          r'.name = r.name ∧ r'.branch = r.branch := by
  intro h
  have hr : Repository.ofAddress (some "https://github.com/acme/shop") =
      .ok ⟨"https://github.com/acme/shop", "acme", "shop", "main"⟩ := rfl
  have hs : IsQuery "?tab=readme".toList := by decide
  have hquery : Repository.ofAddress (some ("https://github.com/acme/shop" ++ "?tab=readme")) =
      .ok ⟨"https://github.com/acme/shop?tab=readme", "acme", "shop?tab=readme", "main"⟩ := rfl
  obtain ⟨r', hr', -, hname, -⟩ := h _ _ _ (by decide) hs hr
  obtain rfl := Except.ok.inj (hquery.symm.trans hr')
  exact absurd hname (by decide)

end NavGraph
