import NavGraph.Host.Address
import NavGraph.Proofs.Pattern.Folding
import NavGraph.Proofs.Text.Trim

/-!
# The grammar of addresses

An address is a host, an owner, a name and perhaps a path, and this module says so without the
pattern that recognizes it.  The host is one of six texts in any letter case, owner and name are
parts without slashes and blanks, and a path that begins with `/tree/` may name a branch.

The pattern tries the branch before the path, so that a path is taken for a branch exactly if it
could be: no other way of reading the same text is preferred.

## Main definitions

* `Address` - an address taken apart
* `IsTree`, `BranchOf` - the branch that a path names
* `LosesGitEnding` - a name and what is left of it

## Main statements

* `Address.exists_match` - the pattern takes every address, and remembers its parts
* `exists_address_of_at?` - and it takes nothing else
* `ofAddress_accepts_grammar` - which texts name a repository, and which one
-/

namespace NavGraph

/-! ### Addresses -/

/-- The ways of writing the host in lower case. -/
def hostForms : List (List Char) :=
  ["https://www.github.com/", "https://github.com/", "http://www.github.com/",
    "http://github.com/", "www.github.com/", "github.com/"].map String.toList

/-- The host in any letter case. -/
def IsHost (text : List Char) : Prop := text.map Text.foldAscii ∈ hostForms

/-- An owner, a name or a branch: at least one character, and neither slashes nor blanks. -/
def IsPart (text : List Char) : Prop := text ≠ [] ∧ ∀ c ∈ text, c ≠ '/' ∧ Text.isBlank c = false

instance (text : List Char) : Decidable (IsHost text) :=
  inferInstanceAs (Decidable (text.map Text.foldAscii ∈ hostForms))

-- by the characters of the text, and not by all characters there are
instance (text : List Char) : Decidable (IsPart text) :=
  @instDecidableAnd _ _ _ (List.decidableBAll _ text)

/-- What may stand behind a name: nothing, or a slash and any text of one line. -/
def IsPath (text : List Char) : Prop := text = [] ∨ ∃ below, text = '/' :: below ∧ '\n' ∉ below

/-- The line feed that may end an address. -/
def IsLineEnd (text : List Char) : Prop := text = [] ∨ text = ['\n']

/-- **An address taken apart.** -/
structure Address where
  host : List Char
  owner : List Char
  name : List Char
  path : List Char
  lineEnd : List Char
  isHost : IsHost host
  isOwner : IsPart owner
  isName : IsPart name
  isPath : IsPath path
  isLineEnd : IsLineEnd lineEnd

/-- The text of an address. -/
def Address.spelling (a : Address) : List Char :=
  a.host ++ (a.owner ++ '/' :: (a.name ++ (a.path ++ a.lineEnd)))

/-- A path that names a branch, and perhaps something below it. -/
def IsTree (path branch : List Char) : Prop :=
  ∃ word deeper, path = word ++ (branch ++ deeper) ∧
    word.map Text.foldAscii = "/tree/".toList ∧ IsPart branch ∧ IsPath deeper

/-- The branch that an address with a path is about. -/
inductive BranchOf (path : List Char) : List Char → Prop
  | named {branch : List Char} (isTree : IsTree path branch) : BranchOf path branch
  | default (without : ∀ branch, ¬ IsTree path branch) : BranchOf path "main".toList

/-- The ending that version control adds to a name. -/
def gitEnding : List Char := ".git".toList

/-- What is left of a name without one such ending. -/
inductive LosesGitEnding : List Char → List Char → Prop
  | ending (stem : List Char) : LosesGitEnding (stem ++ gitEnding) stem
  | whole {name : List Char} (without : ¬ gitEnding <:+ name) : LosesGitEnding name name

/-- **The repository that an address names.** -/
structure Address.Names (a : Address) (r : Repository) : Prop where
  owner_eq : r.owner.toList = a.owner
  losesEnding : LosesGitEnding a.name r.name.toList
  branchOf : BranchOf a.path r.branch.toList

variable {path path' branch branch' name stem stem' lineEnd lineEnd' text rest : List Char}

theorem IsLineEnd.head?_eq (h : IsLineEnd text) : ∀ c ∈ text.head?, c = '\n' := by
  rcases h with rfl | rfl <;> simp

theorem IsPath.not_mem (h : IsPath path) : '\n' ∉ path := by
  rcases h with rfl | ⟨below, rfl, hbelow⟩
  · exact List.not_mem_nil
  · simpa using hbelow

theorem isSegmentChar_iff {c : Char} :
    isSegmentChar c = true ↔ c ≠ '/' ∧ Text.isBlank c = false := by
  simp [isSegmentChar]

/-- The parts of an address are what the pattern takes for them. -/
theorem isPart_iff : IsPart text ↔ text ≠ [] ∧ ∀ c ∈ text, isSegmentChar c = true := by
  simp only [IsPart, isSegmentChar_iff]

theorem IsPart.isSegmentChar (h : IsPart text) : ∀ c ∈ text, isSegmentChar c = true :=
  (isPart_iff.1 h).2

/-- Neither a path nor the end of a line goes on with a character of a part. -/
theorem IsPath.head?_append (h : IsPath path) (hend : IsLineEnd lineEnd) :
    ∀ c ∈ (path ++ lineEnd).head?, isSegmentChar c = false := by
  rcases h with rfl | ⟨below, rfl, -⟩
  · intro c hc
    rw [hend.head?_eq c hc]
    decide
  · intro c hc
    rw [List.cons_append, List.head?_cons, Option.mem_some_iff] at hc
    subst hc
    decide

/-- The end of a line can be told from the text in front of it. -/
theorem IsLineEnd.eq_of_append (h : IsLineEnd lineEnd) (h' : IsLineEnd lineEnd')
    (hpath : '\n' ∉ path) (hpath' : '\n' ∉ path') (heq : path ++ lineEnd = path' ++ lineEnd') :
    path = path' := by
  have htake : ∀ {front back : List Char}, '\n' ∉ front → IsLineEnd back →
      (front ++ back).takeWhile (· != '\n') = front := by
    intro front back hfront hback
    refine Text.takeWhile_append (fun c hc => ?_) fun c hc => ?_
    · rw [bne_iff_ne]
      rintro rfl
      exact hfront hc
    · rw [hback.head?_eq c hc]
      rfl
  rw [← htake hpath h, heq, htake hpath' h']

/-- A path that names a branch is a path. -/
theorem IsTree.isPath (h : IsTree path branch) : IsPath path := by
  obtain ⟨word, deeper, rfl, hword, hbranch, hdeeper⟩ := h
  cases word with
  | nil => cases hword
  | cons c word =>
    have hsplit : "/tree/".toList = '/' :: "tree/".toList := by decide
    obtain ⟨hslash, hletters⟩ := List.cons.inj (hword.trans hsplit)
    obtain rfl := (Text.foldAscii_eq_iff rfl (by decide)).1 hslash
    refine .inr ⟨word ++ (branch ++ deeper), rfl, fun hmem => ?_⟩
    rw [List.mem_append, List.mem_append] at hmem
    rcases hmem with hmem | hmem | hmem
    · have := List.mem_map_of_mem (f := Text.foldAscii) hmem
      rw [hletters] at this
      exact absurd this (by decide)
    · exact absurd (hbranch.2 _ hmem).2 (by decide)
    · exact hdeeper.not_mem hmem

/-- A path names one branch only. -/
theorem IsTree.unique (h : IsTree path branch) (h' : IsTree path branch') : branch = branch' := by
  obtain ⟨word, deeper, rfl, hword, hbranch, hdeeper⟩ := h
  obtain ⟨word', deeper', heq, hword', hbranch', hdeeper'⟩ := h'
  have hlength : word.length = word'.length := by
    simpa using congrArg List.length (hword.trans hword'.symm)
  have htail := (List.append_inj heq hlength).2
  have hnil : ∀ {deeper}, IsPath deeper → ∀ c ∈ deeper.head?, isSegmentChar c = false := by
    intro deeper hdeeper
    have hend : IsLineEnd [] := .inl rfl
    have := hdeeper.head?_append hend
    rwa [List.append_nil] at this
  rw [← Text.takeWhile_append hbranch.isSegmentChar (hnil hdeeper), htail,
    Text.takeWhile_append hbranch'.isSegmentChar (hnil hdeeper')]

theorem BranchOf.unique (h : BranchOf path branch) (h' : BranchOf path branch') :
    branch = branch' := by
  cases h with
  | named isTree =>
    cases h' with
    | named isTree' => exact isTree.unique isTree'
    | default without => exact absurd isTree (without _)
  | default without =>
    cases h' with
    | named isTree' => exact absurd isTree' (without _)
    | default _ => rfl

theorem LosesGitEnding.unique (h : LosesGitEnding name stem) (h' : LosesGitEnding name stem') :
    stem = stem' := by
  cases h with
  | ending =>
    generalize hname : stem ++ gitEnding = whole at h'
    cases h' with
    | ending => exact List.append_cancel_right hname
    | whole without => exact absurd ⟨stem, hname⟩ without
  | whole without =>
    cases h' with
    | ending => exact absurd (List.suffix_append _ _) without
    | whole _ => rfl

/-! ### Parts of the pattern -/

namespace Pattern

/-- The pattern for the host. -/
def hostParts : List Pattern :=
  [optional (sequence [anyCase "http", optional (anyCase "s"), literal "://"]),
    optional (anyCase "www."), anyCase "github.com/"]

/-- The pattern for a branch. -/
def branchPart : Pattern := sequence [anyCase "/tree/", capture 3 (oneOrMore isSegmentChar)]

/-- The pattern for what stands behind the name, or behind the branch. -/
def pathParts : List Pattern := [optional (seq (single '/') (many (· != '\n'))), textEnd]

theorem addressPattern_eq : addressPattern = sequence (textStart :: (hostParts ++
    capture 1 (oneOrMore isSegmentChar) :: single '/' :: capture 2 (oneOrMore isSegmentChar) ::
      optional branchPart :: pathParts)) := rfl

variable {p : Place} {cs : Captures} {w : Place × Captures}

theorem readsFolded_hostParts : ReadsFolded hostForms (sequence hostParts) := by
  have hforms : product (product ["http".toList] (product (["s".toList] ++ [[]])
      (product ["://".toList] [[]])) ++ [[]]) (product (["www.".toList] ++ [[]])
        (product ["github.com/".toList] [[]])) = hostForms := by
    decide +kernel
  rw [← hforms]
  have hscheme := (readsFolded_anyCase "http").cons ((readsFolded_anyCase "s").optional.cons
    ((readsFolded_literal "://" (by simp)).cons readsFolded_nil))
  exact hscheme.optional.cons ((readsFolded_anyCase "www.").optional.cons
    ((readsFolded_anyCase "github.com/").cons readsFolded_nil))

/-- No way of writing the host begins with another one. -/
theorem eq_of_isPrefix_hostForms : ∀ form ∈ hostForms, ∀ other ∈ hostForms,
    form <+: other → form = other := by
  decide +kernel

/-! ### What the pattern takes -/

/-- The continuation that accepts everything. -/
def accept (q : Place) (cs : Captures) : Option (Place × Captures) := some (q, cs)

/-- **A path is taken whole**, and the end of the line stays. -/
theorem run_pathParts (hpath : IsPath path) (hend : IsLineEnd lineEnd)
    (hrest : p.rest = path ++ lineEnd) :
    run (sequence pathParts) accept p cs = some (p.after path lineEnd, cs) := by
  have htextEnd : run textEnd accept (p.after path lineEnd) cs =
      some (p.after path lineEnd, cs) := by
    have hatEnd : (p.after path lineEnd).atTextEnd = true := Place.atTextEnd_iff.2 hend
    rw [run, if_pos hatEnd]
    rfl
  rw [pathParts, run_sequence_cons]
  rcases hpath with rfl | ⟨below, rfl, hbelow⟩
  · rw [List.nil_append] at hrest
    rw [Place.after_nil hrest] at htextEnd ⊢
    rw [run_optional_of_none]
    · exact htextEnd
    · refine run_single_eq_none fun hslash => ?_
      have := hend.head?_eq '/' (by rw [← hrest, hslash]; rfl)
      cases this
  · refine run_optional_of_some ?_
    rw [run, run_single_of_cons hrest]
    refine run_many Place.after_rest (fun c hc => ?_) (fun c hc => ?_) ?_
    · rw [bne_iff_ne]
      rintro rfl
      exact hbelow hc
    · rw [hend.head?_eq c hc]
      rfl
    · rw [Place.after_after]
      exact htextEnd

/-- What a pattern for a branch takes behind a name is such a path. -/
theorem isTree_of_mem_ways (h : w ∈ ways branchPart p cs) :
    ∃ word branch, p.rest = word ++ (branch ++ w.1.rest) ∧
      word.map Text.foldAscii = "/tree/".toList ∧ IsPart branch := by
  obtain ⟨v, hv, hw⟩ := mem_ways_sequence_cons.1 h
  obtain ⟨word, rest, hrest, hword, rfl⟩ := (readsFolded_anyCase "/tree/" p cs v).1 hv
  obtain ⟨u, hu, rfl⟩ := mem_ways_capture.1 hw
  obtain ⟨branch, hreaches, hne, hbranch⟩ := reaches_of_mem_ways_oneOrMore hu
  have hbehind : rest = branch ++ u.1.rest := hreaches.rest_eq
  refine ⟨word, branch, ?_, List.mem_singleton.1 hword, isPart_iff.2 ⟨hne, hbranch⟩⟩
  rw [hrest, hbehind]

/-- What is taken to the end of the text is a path and the end of a line. -/
theorem isPath_of_mem_ways (h : w ∈ ways (sequence pathParts) p cs) :
    ∃ path lineEnd, p.rest = path ++ lineEnd ∧ IsPath path ∧ IsLineEnd lineEnd := by
  obtain ⟨v, hv, hw⟩ := mem_ways_sequence_cons.1 h
  have hend : IsLineEnd v.1.rest := Place.atTextEnd_iff.1 (mem_ways_textEnd.1 hw).1
  rcases mem_ways_alt.1 hv with hv | hv
  · obtain ⟨u, hu, hv⟩ := mem_ways_seq.1 hv
    obtain ⟨below, hreaches, hbelow⟩ := reaches_of_mem_ways_many hv
    refine ⟨'/' :: below, v.1.rest, ?_, .inr ⟨below, rfl, fun hmem => ?_⟩, hend⟩
    · rw [((reaches_of_mem_ways_single hu).trans hreaches).rest_eq]
      rfl
    · have := hbelow _ hmem
      cases this
  · obtain rfl := mem_ways_empty.1 hv
    exact ⟨[], p.rest, rfl, .inl rfl, hend⟩

/-- What a slot takes is a part. -/
theorem isPart_of_mem_ways {slot : Nat}
    (h : w ∈ ways (capture slot (oneOrMore isSegmentChar)) p cs) :
    ∃ part, p.rest = part ++ w.1.rest ∧ IsPart part := by
  obtain ⟨v, hv, rfl⟩ := mem_ways_capture.1 h
  obtain ⟨part, hreaches, hne, hpart⟩ := reaches_of_mem_ways_oneOrMore hv
  exact ⟨part, hreaches.rest_eq, isPart_iff.2 ⟨hne, hpart⟩⟩

/-- **A part is taken whole** into its slot. -/
theorem run_part {α : Type} {k : Place → Captures → Option α} {answer : α} {slot : Nat}
    {part : List Char} (hrest : p.rest = part ++ rest) (hpart : IsPart part)
    (hbehind : ∀ c ∈ rest.head?, isSegmentChar c = false)
    (hk : k (p.after part rest) ((slot, ⟨p.position, part⟩) :: cs) = some answer) :
    run (capture slot (oneOrMore isSegmentChar)) k p cs = some answer := by
  rw [run]
  refine run_oneOrMore hrest hpart.1 hpart.isSegmentChar hbehind ?_
  rwa [Place.textTo_after hrest]

/-- A branch is taken if the path names one. -/
theorem run_branch_of_isTree (h : IsTree path branch) (hend : IsLineEnd lineEnd)
    (hrest : p.rest = path ++ lineEnd) :
    ∃ position, run (sequence (optional branchPart :: pathParts)) accept p cs =
      some (p.after path lineEnd, (3, ⟨position, branch⟩) :: cs) := by
  obtain ⟨word, deeper, rfl, hword, hbranch, hdeeper⟩ := h
  rw [List.append_assoc, List.append_assoc] at hrest
  refine ⟨(p.after word (branch ++ (deeper ++ lineEnd))).position, ?_⟩
  rw [run_sequence_cons]
  refine run_optional_of_some ?_
  rw [branchPart, run_sequence_cons,
    (readsFolded_anyCase "/tree/").run_eq (by simp) hrest (List.mem_singleton.2 hword)]
  refine run_part Place.after_rest hbranch (hdeeper.head?_append hend) ?_
  rw [run_pathParts hdeeper hend Place.after_rest, Place.after_after, Place.after_after]

/-- A branch is passed over if the path names none. -/
theorem run_branch_of_not_isTree (h : ∀ branch, ¬ IsTree path branch) (hpath : IsPath path)
    (hend : IsLineEnd lineEnd) (hrest : p.rest = path ++ lineEnd) :
    run (sequence (optional branchPart :: pathParts)) accept p cs =
      some (p.after path lineEnd, cs) := by
  rw [run_sequence_cons, run_optional_of_none, run_pathParts hpath hend hrest]
  rw [← run_sequence_cons, run_eq_findSome?_ways, List.findSome?_eq_none_iff]
  intro w hw
  exfalso
  obtain ⟨v, hv, hw⟩ := mem_ways_sequence_cons.1 hw
  obtain ⟨word, branch, hbranch, hword, hpart⟩ := isTree_of_mem_ways hv
  obtain ⟨deeper, lineEnd', hbehind, hdeeper, hend'⟩ := isPath_of_mem_ways hw
  refine h branch ⟨word, deeper, ?_, hword, hpart, hdeeper⟩
  have htree : IsTree (word ++ (branch ++ deeper)) branch :=
    ⟨word, deeper, rfl, hword, hpart, hdeeper⟩
  refine hend.eq_of_append hend' hpath.not_mem htree.isPath.not_mem ?_
  rw [← hrest, hbranch, hbehind]
  simp

end Pattern

open Pattern

/-- Up to the name there is one way of taking an address. -/
theorem Address.exists_behind_name (a : Address) : ∃ p start start',
    p.rest = a.path ++ a.lineEnd ∧ ∀ answer,
      run (sequence (optional branchPart :: pathParts)) accept p
        [(2, ⟨start', a.name⟩), (1, ⟨start, a.owner⟩)] = some answer →
          matchAt addressPattern (.start a.spelling) = some answer := by
  let behindHost := a.owner ++ '/' :: (a.name ++ (a.path ++ a.lineEnd))
  let p₁ := (Place.start a.spelling).after a.host behindHost
  let p₂ := p₁.after a.owner ('/' :: (a.name ++ (a.path ++ a.lineEnd)))
  let p₃ := p₂.after ['/'] (a.name ++ (a.path ++ a.lineEnd))
  refine ⟨p₃.after a.name (a.path ++ a.lineEnd), p₁.position, p₃.position, rfl, ?_⟩
  intro answer h
  have hslash : ∀ c ∈ ('/' :: (a.name ++ (a.path ++ a.lineEnd))).head?,
      isSegmentChar c = false := by
    simp [isSegmentChar]
  have hstart : (Place.start a.spelling).position = 0 := rfl
  have hhost : (Place.start a.spelling).rest = a.host ++ behindHost := rfl
  rw [matchAt, addressPattern_eq, run_sequence_cons, run, if_pos hstart, run_sequence_append,
    readsFolded_hostParts.run_eq eq_of_isPrefix_hostForms hhost a.isHost,
    run_sequence_cons]
  refine run_part (p := p₁) rfl a.isOwner hslash ?_
  rw [run_sequence_cons, run_single_of_cons (p := p₂) rfl, run_sequence_cons]
  exact run_part (p := p₃) rfl a.isName (a.isPath.head?_append a.isLineEnd) h

/-- **The pattern takes every address**, and remembers its parts. -/
theorem Address.exists_match (a : Address) : ∃ m, addressPattern.at? (.start a.spelling) = some m ∧
    m.text 1 = String.ofList a.owner ∧ m.text 2 = String.ofList a.name ∧
      BranchOf a.path ((m.text? 3).getD defaultBranch).toList := by
  obtain ⟨p, start, start', hrest, hmatch⟩ := a.exists_behind_name
  by_cases htree : ∃ branch, IsTree a.path branch
  · obtain ⟨branch, htree⟩ := htree
    obtain ⟨position, hrun⟩ := run_branch_of_isTree htree a.isLineEnd hrest
    rw [at?, hmatch _ hrun]
    refine ⟨_, rfl, rfl, rfl, ?_⟩
    have hbranch : BranchOf a.path (String.ofList branch).toList := by
      rw [String.toList_ofList]
      exact .named htree
    exact hbranch
  · rw [not_exists] at htree
    rw [at?, hmatch _ (run_branch_of_not_isTree htree a.isPath a.isLineEnd hrest)]
    exact ⟨_, rfl, rfl, rfl, .default htree⟩

/-- **The pattern takes nothing else.** -/
theorem exists_address_of_at? {m : Match} (h : addressPattern.at? (.start text) = some m) :
    ∃ a : Address, a.spelling = text := by
  obtain ⟨w, hw, -⟩ := exists_way_of_at? h
  obtain ⟨v, hv, hw⟩ := mem_ways_sequence_cons.1 (addressPattern_eq ▸ hw)
  obtain ⟨-, rfl⟩ := mem_ways_textStart.1 hv
  obtain ⟨v, hv, hw⟩ := mem_ways_sequence_append.1 hw
  obtain ⟨host, behindHost, hhost, isHost, rfl⟩ := (readsFolded_hostParts _ _ v).1 hv
  obtain ⟨v₁, hv, hw⟩ := mem_ways_sequence_cons.1 hw
  obtain ⟨owner, howner, isOwner⟩ := isPart_of_mem_ways hv
  obtain ⟨v₂, hv, hw⟩ := mem_ways_sequence_cons.1 hw
  have hslash := (reaches_of_mem_ways_single hv).rest_eq
  obtain ⟨v₃, hv, hw⟩ := mem_ways_sequence_cons.1 hw
  obtain ⟨name, hname, isName⟩ := isPart_of_mem_ways hv
  obtain ⟨v₄, hv, hw⟩ := mem_ways_sequence_cons.1 hw
  obtain ⟨path, lineEnd, hpath, isPath, isLineEnd⟩ :
      ∃ path lineEnd, v₃.1.rest = path ++ lineEnd ∧ IsPath path ∧ IsLineEnd lineEnd := by
    rcases mem_ways_alt.1 hv with hv | hv
    · obtain ⟨word, branch, hbranch, hword, hpart⟩ := isTree_of_mem_ways hv
      obtain ⟨deeper, lineEnd, hdeeper, isDeeper, isLineEnd⟩ := isPath_of_mem_ways hw
      have htree : IsTree (word ++ (branch ++ deeper)) branch :=
        ⟨word, deeper, rfl, hword, hpart, isDeeper⟩
      refine ⟨_, lineEnd, ?_, htree.isPath, isLineEnd⟩
      rw [hbranch, hdeeper]
      simp
    · obtain rfl := mem_ways_empty.1 hv
      exact isPath_of_mem_ways hw
  refine ⟨⟨host, owner, name, path, lineEnd, isHost, isOwner, isName, isPath, isLineEnd⟩, ?_⟩
  have hbehind : behindHost = owner ++ v₁.1.rest := howner
  rw [Address.spelling, ← hpath, ← hname, ← List.singleton_append, ← hslash, ← hbehind]
  exact hhost.symm

/-! ### Names -/

theorem losesGitEnding_dropGitEnding (name : String) :
    LosesGitEnding name.toList (dropGitEnding name).toList := by
  rw [dropGitEnding]
  split
  · rename_i hending
    obtain ⟨stem, hstem⟩ := List.isSuffixOf_iff_suffix.1 hending
    rw [String.toList_ofList, ← hstem]
    have hlength : (stem ++ ".git".toList).length - 4 = stem.length := by simp
    rw [hlength, List.take_left]
    exact .ending stem
  · rename_i hending
    exact .whole fun hsuffix => hending (List.isSuffixOf_iff_suffix.2 hsuffix)

/-- Nothing is left of the ending alone, and of no other name. -/
theorem LosesGitEnding.eq_nil_iff (h : LosesGitEnding name stem) (hne : name ≠ []) :
    stem = [] ↔ name = gitEnding := by
  cases h with
  | ending => simp
  | whole without =>
    refine iff_of_false hne ?_
    rintro rfl
    exact without (List.suffix_refl _)

theorem Address.Names.unique {a : Address} {r r' : Repository} (h : a.Names r) (h' : a.Names r')
    (hurl : r.url = r'.url) : r = r' := by
  have howner : r.owner = r'.owner := String.toList_inj.1 (h.owner_eq.trans h'.owner_eq.symm)
  have hname : r.name = r'.name := String.toList_inj.1 (h.losesEnding.unique h'.losesEnding)
  have hbranch : r.branch = r'.branch := String.toList_inj.1 (h.branchOf.unique h'.branchOf)
  cases r
  cases r'
  simp_all

/-! ### Recognizing addresses -/

variable {address : Option String}

/-- What an address stands for, unless its name is the ending alone. -/
theorem ofAddress_spelling (a : Address) (h : a.spelling = (cleanAddress address).toList)
    (hname : a.name ≠ gitEnding) : ∃ r, Repository.ofAddress address = .ok r ∧
      r.url = cleanAddress address ∧ a.Names r := by
  obtain ⟨m, hm, howner, hrepository, hbranch⟩ := a.exists_match
  have hloses := losesGitEnding_dropGitEnding (m.text 2)
  have hnamed : (m.text 2).toList = a.name := by rw [hrepository, String.toList_ofList]
  rw [hnamed] at hloses
  have hleft : ¬ (dropGitEnding (m.text 2)).isEmpty = true := by
    rw [String.isEmpty_iff, ← String.toList_eq_nil_iff, hloses.eq_nil_iff a.isName.1]
    exact hname
  refine ⟨⟨cleanAddress address, m.text 1, dropGitEnding (m.text 2), _⟩, ?_, rfl,
    ⟨by rw [howner, String.toList_ofList], hloses, hbranch⟩⟩
  rw [h] at hm
  rw [Repository.ofAddress, hm]
  exact if_neg hleft

theorem ofAddress_gitEnding (a : Address) (h : a.spelling = (cleanAddress address).toList)
    (hname : a.name = gitEnding) :
    Repository.ofAddress address = .error (.invalidReference address) := by
  obtain ⟨m, hm, -, hrepository, -⟩ := a.exists_match
  have hleft : (dropGitEnding (m.text 2)).isEmpty = true := by
    rw [hrepository, hname]
    rfl
  rw [h] at hm
  rw [Repository.ofAddress, hm]
  exact if_pos hleft

theorem ofAddress_of_forall_ne (h : ∀ a : Address, a.spelling ≠ (cleanAddress address).toList) :
    Repository.ofAddress address = .error (.invalidReference address) := by
  have hnone : addressPattern.at? (.start (cleanAddress address).toList) = none := by
    rw [Option.eq_none_iff_forall_ne_some]
    intro m hm
    obtain ⟨a, ha⟩ := exists_address_of_at? hm
    exact h a ha
  rw [Repository.ofAddress, hnone]

theorem ofAddress_eq_ok_iff {r : Repository} : Repository.ofAddress address = .ok r ↔
    r.url = cleanAddress address ∧ ∃ a : Address, a.spelling = (cleanAddress address).toList ∧
      a.name ≠ gitEnding ∧ a.Names r := by
  constructor
  · intro hr
    by_cases h : ∃ a : Address, a.spelling = (cleanAddress address).toList
    · obtain ⟨a, ha⟩ := h
      by_cases hname : a.name = gitEnding
      · rw [ofAddress_gitEnding a ha hname] at hr
        cases hr
      · obtain ⟨r', hr', hurl, hnames⟩ := ofAddress_spelling a ha hname
        obtain rfl := Except.ok.inj (hr'.symm.trans hr)
        exact ⟨hurl, a, ha, hname, hnames⟩
    · rw [ofAddress_of_forall_ne (not_exists.1 h)] at hr
      cases hr
  · rintro ⟨hurl, a, ha, hname, hnames⟩
    obtain ⟨r', hr', hurl', hnames'⟩ := ofAddress_spelling a ha hname
    rw [hr', hnames.unique hnames' (hurl.trans hurl'.symm)]

/-- An address that is not accepted is handed back. -/
theorem ofAddress_eq_error_or (address : Option String) :
    (∃ r, Repository.ofAddress address = .ok r) ∨
      Repository.ofAddress address = .error (.invalidReference address) := by
  by_cases h : ∃ a : Address, a.spelling = (cleanAddress address).toList
  · obtain ⟨a, ha⟩ := h
    by_cases hname : a.name = gitEnding
    · exact .inr (ofAddress_gitEnding a ha hname)
    · obtain ⟨r, hr, -⟩ := ofAddress_spelling a ha hname
      exact .inl ⟨r, hr⟩
  · exact .inr (ofAddress_of_forall_ne (not_exists.1 h))

/-! ### Blanks and slashes around an address -/

/-- What a host begins with is not trimmed. -/
theorem IsHost.head?_append {host : List Char} (h : IsHost host) (rest : List Char) :
    ∃ c, (host ++ rest).head? = some c ∧ Text.isBlank c = false := by
  have hforms : ∀ form ∈ hostForms, form.head?.any (fun c => !Text.isBlank c) = true := by
    decide +kernel
  obtain ⟨d, hd, hblank⟩ := (Option.any_eq_true _ _).1 (hforms _ h)
  cases host with
  | nil => cases hd
  | cons c host =>
    rw [List.map_cons, List.head?_cons, Option.some_inj] at hd
    refine ⟨c, rfl, ?_⟩
    rw [Bool.eq_false_iff]
    intro hc
    rw [← hd, Text.foldAscii_of_isBlank hc, hc] at hblank
    cases hblank

/-- **Cleaning an address** keeps it up to the last character of a part, and what is left of the
rest is a beginning of it. -/
theorem cleanAddress_eq {front part back : List Char} (rest : List Char)
    (hfront : ∀ d ∈ front, Text.isBlank d = true) (hback : ∀ d ∈ back, Text.isBlank d = true)
    (hfirst : ∃ d, text.head? = some d ∧ Text.isBlank d = false) (hpart : IsPart part) :
    (cleanAddress (some (String.ofList (front ++ (text ++ (part ++ rest)) ++ back)))).toList =
      text ++ (part ++ Text.trimEndWhile (· == '/') (Text.trimEndWhile Text.isBlank rest)) := by
  obtain ⟨first, text, rfl, hblank⟩ :
      ∃ first tail, text = first :: tail ∧ Text.isBlank first = false := by
    obtain ⟨d, hd, hblank⟩ := hfirst
    obtain ⟨tail, rfl⟩ := List.head?_eq_some_iff.1 hd
    exact ⟨d, tail, rfl, hblank⟩
  obtain ⟨body, last, rfl⟩ := (List.eq_nil_or_concat part).resolve_left hpart.1
  have hlast := hpart.2 last (by simp)
  have hslash : (fun c => c == '/') last = false := beq_eq_false_iff_ne.2 hlast.1
  have hdrop : (front ++ (first :: text ++ (body.concat last ++ rest)) ++ back).dropWhile
      Text.isBlank = (first :: text ++ body) ++ last :: (rest ++ back) := by
    rw [List.append_assoc, List.dropWhile_append_of_pos hfront]
    simp [hblank]
  rw [cleanAddress, Option.getD_some, String.toList_ofList, String.toList_ofList, Text.trim,
    Text.trimWhile, hdrop, Text.trimEndWhile_append_cons hlast.2,
    Text.trimEndWhile_append_of_all hback, Text.trimEndWhile_append_cons (p := (· == '/')) hslash]
  simp

/-! ### Which addresses name a repository -/

theorem IsPath.of_isPrefix (h : IsPath path) (hkept : path' <+: path) : IsPath path' := by
  obtain ⟨cut, rfl⟩ := hkept
  cases path' with
  | nil => exact .inl rfl
  | cons c kept =>
    rcases h with h | ⟨below, hbelow, hline⟩
    · cases h
    · obtain ⟨rfl, rfl⟩ := List.cons.inj hbelow
      exact .inr ⟨kept, rfl, fun hmem => hline (List.mem_append_left cut hmem)⟩

theorem IsPath.append_slashes (h : IsPath path) (count : Nat) :
    IsPath (path ++ List.replicate count '/') := by
  have hline : '\n' ∉ List.replicate count '/' := fun hmem =>
    absurd (List.eq_of_mem_replicate hmem) (by decide)
  rcases h with rfl | ⟨below, rfl, hbelow⟩
  · cases count with
    | zero => exact .inl rfl
    | succ count => exact .inr ⟨_, rfl, fun hmem => hline (List.mem_cons_of_mem _ hmem)⟩
  · exact .inr ⟨_, rfl, List.not_mem_append hbelow hline⟩

theorem not_isTree_nil : ¬ IsTree [] branch := by
  rintro ⟨word, deeper, hnil, hword, -⟩
  obtain ⟨rfl, -⟩ := List.append_eq_nil_iff.1 hnil.symm
  cases hword

/-- The branch of an address, as its writer means it. -/
def MeansBranch (path branch : List Char) : Prop :=
  path = [] ∧ branch = "main".toList ∨ IsTree path branch

/-- Blanks around an address and slashes behind it leave its owner, its name and its branch. -/
theorem exists_address_around {host owner front back : List Char} (slashes : Nat)
    (hhost : IsHost host) (howner : IsPart owner) (hname : IsPart name)
    (hpath : MeansBranch path branch) (hfront : ∀ c ∈ front, Text.isBlank c = true)
    (hback : ∀ c ∈ back, Text.isBlank c = true) :
    ∃ a : Address, a.owner = owner ∧ a.name = name ∧ BranchOf a.path branch ∧
      a.spelling = (cleanAddress (some (String.ofList (front ++
        (host ++ owner ++ '/' :: name ++ path ++ List.replicate slashes '/') ++
          back)))).toList := by
  rcases hpath with ⟨rfl, rfl⟩ | ⟨word, deeper, rfl, hword, hbranch, hdeeper⟩
  · -- the slashes are all that is cut off
    have hslashes : ∀ c ∈ Text.trimEndWhile Text.isBlank (List.replicate slashes '/'),
        (c == '/') = true := by
      intro c hc
      rw [List.eq_of_mem_replicate (Text.prefix_trimEndWhile.subset hc)]
      rfl
    have hclean := cleanAddress_eq (List.replicate slashes '/') hfront hback
      (hhost.head?_append (owner ++ ['/'])) hname
    rw [Text.trimEndWhile_eq_nil hslashes] at hclean
    refine ⟨⟨host, owner, name, [], [], hhost, howner, hname, .inl rfl, .inl rfl⟩, rfl, rfl,
      .default fun _ => not_isTree_nil, ?_⟩
    simpa [Address.spelling] using hclean.symm
  · -- what is cut off stands behind the branch
    have hclean := cleanAddress_eq (deeper ++ List.replicate slashes '/') hfront hback
      (hhost.head?_append (owner ++ '/' :: (name ++ word))) hbranch
    obtain ⟨kept, hkept⟩ : ∃ kept, kept = Text.trimEndWhile (· == '/')
        (Text.trimEndWhile Text.isBlank (deeper ++ List.replicate slashes '/')) := ⟨_, rfl⟩
    rw [← hkept] at hclean
    have hstart : kept <+: deeper ++ List.replicate slashes '/' :=
      hkept ▸ Text.prefix_trimEndWhile.trans Text.prefix_trimEndWhile
    have hpath : IsTree (word ++ (branch ++ kept)) branch :=
      ⟨word, kept, rfl, hword, hbranch, (hdeeper.append_slashes slashes).of_isPrefix hstart⟩
    refine ⟨⟨host, owner, name, _, [], hhost, howner, hname, hpath.isPath, .inl rfl⟩, rfl, rfl,
      .named hpath, ?_⟩
    simpa [Address.spelling] using hclean.symm

/-- **A text is the address of a repository exactly if it is spelled like one**, and then its parts
name the repository; whatever stands around it.  In particular the owner, the name and the branch of
an address come back however it is written. -/
theorem ofAddress_accepts_grammar :
    (∀ address r, Repository.ofAddress address = .ok r ↔
      r.url = cleanAddress address ∧ ∃ a : Address, a.spelling = (cleanAddress address).toList ∧
        a.name ≠ gitEnding ∧ a.Names r) ∧
    (∀ address, (∃ r, Repository.ofAddress address = .ok r) ↔
      ∃ a : Address, a.spelling = (cleanAddress address).toList ∧ a.name ≠ gitEnding) ∧
    (∀ address, (∃ r, Repository.ofAddress address = .ok r) ∨
      Repository.ofAddress address = .error (.invalidReference address)) ∧
    ∀ host owner name path branch front back slashes, IsHost host → IsPart owner → IsPart name →
      ¬ gitEnding <:+ name → MeansBranch path branch →
      (∀ c ∈ front, Text.isBlank c = true) → (∀ c ∈ back, Text.isBlank c = true) →
      ∃ url, Repository.ofAddress (some (String.ofList (front ++
        (host ++ owner ++ '/' :: name ++ path ++ List.replicate slashes '/') ++ back))) =
          .ok ⟨url, String.ofList owner, String.ofList name, String.ofList branch⟩ := by
  refine ⟨fun address r => ofAddress_eq_ok_iff, fun address => ?_, ofAddress_eq_error_or, ?_⟩
  · constructor
    · rintro ⟨r, hr⟩
      obtain ⟨-, a, ha, hname, -⟩ := ofAddress_eq_ok_iff.1 hr
      exact ⟨a, ha, hname⟩
    · rintro ⟨a, ha, hname⟩
      obtain ⟨r, hr, -⟩ := ofAddress_spelling a ha hname
      exact ⟨r, hr⟩
  · intro host owner name path branch front back slashes hhost howner hname hgit hpath hfront hback
    obtain ⟨a, rfl, rfl, hbranch, ha⟩ :=
      exists_address_around slashes hhost howner hname hpath hfront hback
    refine ⟨_, ofAddress_eq_ok_iff.2 ⟨rfl, a, ha, ?_, ?_⟩⟩
    · intro hending
      rw [hending] at hgit
      exact hgit (List.suffix_refl _)
    · refine ⟨String.toList_ofList, ?_, ?_⟩
      · rw [String.toList_ofList]
        exact .whole hgit
      · rwa [String.toList_ofList]

/-- In particular of an address with blanks around it, a directory of a branch and slashes. -/
theorem ofAddress_accepts_grammar_shop :
    ∃ url, Repository.ofAddress (some "  HTTPS://www.GitHub.com/acme/shop/Tree/dev/src// ") =
      .ok ⟨url, "acme", "shop", "dev"⟩ := by
  have hhost : IsHost "HTTPS://www.GitHub.com/".toList := by decide +kernel
  have howner : IsPart "acme".toList := by decide
  have hname : IsPart "shop".toList := by decide
  have hbranch : IsTree "/Tree/dev/src".toList "dev".toList :=
    ⟨"/Tree/".toList, "/src".toList, by decide, by decide, by decide,
      .inr ⟨"src".toList, by decide, by decide⟩⟩
  obtain ⟨url, hurl⟩ := ofAddress_accepts_grammar.2.2.2 _ _ _ _ _ "  ".toList " ".toList 2 hhost
    howner hname (by decide) (.inr hbranch) (by simp [Text.isBlank]) (by simp [Text.isBlank])
  have haddress : String.ofList ("  ".toList ++ ("HTTPS://www.GitHub.com/".toList ++
      "acme".toList ++ '/' :: "shop".toList ++ "/Tree/dev/src".toList ++
        List.replicate 2 '/') ++ " ".toList) =
        "  HTTPS://www.GitHub.com/acme/shop/Tree/dev/src// " := by
    decide +kernel
  rw [haddress, String.ofList_toList, String.ofList_toList, String.ofList_toList] at hurl
  exact ⟨url, hurl⟩

end NavGraph
