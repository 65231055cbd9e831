import NavGraph.Proofs.Analyzer.Equations
import NavGraph.Proofs.Analyzer.Soundness
import NavGraph.Proofs.Host.Serving

/-!
# What a scan finds

On a host that serves a finite tree, a run comes to what can be said of the tree alone: the files
that can be reached through scanned directories, those among them that are worth reading, and the
graph of their texts.

## Main definitions

* `Folder.visible`, `Folder.candidates` - the files that a run sees, and those that it reads
* `Folder.graph` - the graph of the files that are read, before its second pass
* `Folder.depth` - how deeply scanned directories are nested
* `ScanState.extend` - a state of a scan after some more files

## Main statements

* `scanEntries_of_servesBelow` - a scan extends its state by the visible files, in order
* `analyze_of_serves` - the outcome of a run, told from the tree

## Design notes

The machine follows nested directories only so far.  Nothing is assumed about how that compares
with the tree: where the tree is deeper the run ends in a failure of its own, and neither a result
nor demonstration data hides it.
-/

namespace NavGraph

open NavGraph.Graph NavGraph.Source NavGraph.Run

/-! ### Trees -/

/-- Whether all directories on the way to a file are scanned. -/
def Leaf.isVisible (l : Leaf) : Bool := l.trail.all scanDirectories.contains

/-- Whether a file is worth reading and has an address to read it from. -/
def Leaf.isCandidate (l : Leaf) : Bool :=
  Source.isCandidate l.path && l.location.any fun location => !location.isEmpty

/-- The text that is read from a file; nothing where its address fails. -/
def Leaf.readText (failing : String → Bool) (l : Leaf) : String :=
  if l.location.any failing then "" else l.text

/-- A graph and the files that are added to it. -/
def Graph.Builder.addLeaves (failing : String → Bool) (b : Builder) (leaves : List Leaf) :
    Builder :=
  leaves.foldl (fun b l => b.add (analyzeFile l.path (l.readText failing))) b

/-- How many of some files have a text. -/
def filledCount (failing : String → Bool) (leaves : List Leaf) : Nat :=
  (leaves.filter fun l => !(l.readText failing).isEmpty).length

namespace Folder

/-- The files that a run sees, depth first and in order. -/
def visible (root : Folder) : List Leaf := (root.leaves []).filter Leaf.isVisible

/-- The files that a run reads. -/
def candidates (root : Folder) : List Leaf := root.visible.filter Leaf.isCandidate

/-- The graph of the files that a run reads, not connected yet. -/
def graph (root : Folder) (failing : String → Bool) : Builder :=
  Builder.empty.addLeaves failing root.candidates

/-- A graph of files that were just analyzed is not connected. -/
theorem isUnconnected_graph (root : Folder) (failing : String → Bool) :
    (root.graph failing).IsUnconnected := by
  refine List.foldlRecOn root.candidates _ Builder.isUnconnected_empty ?_
  intro b hb l _
  exact hb.add fun n hn => connections_of_mem_analyzeFile hn

/-- The result that a tree comes to. -/
def result (root : Folder) (failing : String → Bool) (url : String) (repo : Repository)
    (now : Time.Timestamp) : Analysis where
  repoUrl := url
  repoName := repo.name
  nodes := (root.graph failing).connect.nodes
  routes := (root.graph failing).connect.routes
  journeys := journeys (root.graph failing).connect.nodes
  totalFiles := root.visible.length
  analyzedFiles := filledCount failing root.candidates
  timestamp := now

/-- How deeply scanned directories are nested. -/
def depth : Folder → Nat
  | empty => 0
  | file _ _ _ rest => rest.depth
  | directory name below rest =>
      if scanDirectories.contains name then max (below.depth + 1) rest.depth else rest.depth

/-- What can be found in a tree: a result, unless there is nothing to read. -/
def findings (root : Folder) (failing : String → Bool) (url : String) (repo : Repository)
    (now : Time.Timestamp) : Except Failure Analysis :=
  if root.candidates.isEmpty then .error (.emptyResult repo.name)
  else .ok (root.result failing url repo now)

/-- What is found on a machine that follows directories so deeply. -/
def outcome (root : Folder) (failing : String → Bool) (nesting : Nat) (url : String)
    (repo : Repository) (now : Time.Timestamp) : Except Failure Analysis :=
  if nesting < root.depth then .error .nestedTooDeeply
  else root.findings failing url repo now

theorem not_isHostFailure_of_outcome {root : Folder} {failing : String → Bool} {nesting : Nat}
    {url : String} {repo : Repository} {now : Time.Timestamp} {f : Failure}
    (h : root.outcome failing nesting url repo now = .error f) : f.isHostFailure = false := by
  unfold outcome findings at h
  split at h
  · cases h
    rfl
  · split at h <;> cases h
    rfl

/-- Nothing below a directory is visible that is not scanned. -/
theorem filter_leaves_of_not_scanned {below : Folder} {trail : List String} {name : String}
    (h : scanDirectories.contains name = false) :
    (below.leaves (trail ++ [name])).filter Leaf.isVisible = [] := by
  rw [List.filter_eq_nil_iff]
  intro l hl hvisible
  have hname : name ∈ l.trail := by
    apply (trail_prefix_of_mem_leaves hl).subset
    exact List.mem_append_right trail (List.mem_singleton.2 rfl)
  rw [List.all_eq_true.1 hvisible name hname] at h
  cases h

end Folder

namespace ScanState

/-- A state of a scan after some more files have been seen. -/
def extend (failing : String → Bool) (st : ScanState) (seen : List Leaf) : ScanState where
  builder := st.builder.addLeaves failing (seen.filter Leaf.isCandidate)
  candidates := st.candidates + (seen.filter Leaf.isCandidate).length
  totalFiles := st.totalFiles + seen.length
  analyzedFiles := st.analyzedFiles + filledCount failing (seen.filter Leaf.isCandidate)

theorem extend_nil (failing : String → Bool) (st : ScanState) :
    st.extend failing [] = st := rfl

theorem extend_append (failing : String → Bool) (st : ScanState) (seen more : List Leaf) :
    st.extend failing (seen ++ more) = (st.extend failing seen).extend failing more := by
  simp only [extend, Builder.addLeaves, filledCount, List.filter_append, List.foldl_append,
    List.length_append, Nat.add_assoc]

theorem extend_cons (failing : String → Bool) (st : ScanState) (l : Leaf) (more : List Leaf) :
    st.extend failing (l :: more) = (st.extend failing [l]).extend failing more :=
  extend_append failing st [l] more

/-- A file that is not read only counts as seen. -/
theorem extend_of_not_isCandidate {failing : String → Bool} {st : ScanState} {l : Leaf}
    (h : l.isCandidate = false) :
    st.extend failing [l] = { st with totalFiles := st.totalFiles + 1 } := by
  simp only [extend, List.filter_cons, h, Bool.false_eq_true, if_false, List.filter_nil]
  rfl

theorem extend_of_isCandidate {failing : String → Bool} {st : ScanState} {l : Leaf}
    (h : l.isCandidate = true) :
    st.extend failing [l] =
      { builder := st.builder.add (analyzeFile l.path (l.readText failing))
        candidates := st.candidates + 1
        totalFiles := st.totalFiles + 1
        analyzedFiles :=
          if (l.readText failing).isEmpty then st.analyzedFiles else st.analyzedFiles + 1 } := by
  simp only [extend, List.filter_cons, h, if_true, List.filter_nil, filledCount]
  cases (l.readText failing).isEmpty <;> rfl

end ScanState

namespace Analyzer

variable {a : Analyzer} {repo : Repository} {failing : String → Bool}

/-! ### The scan, one entry at a time -/

/-- Which files are read, in terms of entries and in terms of leaves. -/
theorem candidateLocation?_eq (l : Leaf) :
    candidateLocation? ⟨l.name, l.path, .file, l.location⟩ =
      if l.isCandidate then l.location else none := by
  obtain ⟨trail, name, text, location⟩ := l
  cases location with
  | none => simp [candidateLocation?]
  | some address => rfl

section

variable (hsignal : a.client.cancelled = .never) (hactive : a.cancelled = .never)
  (hretries : 0 ≤ a.client.settings.maxRetries)

include hsignal hretries in
/-- A file that is worth reading is added with the text that is read from it. -/
theorem scanFile_of_delivers {l : Leaf} {address : String} (hlocation : l.location = some address)
    (h : a.client.Delivers failing address l.text) (st : ScanState) :
    (a.scanFile l.path address st).Ensures
      (· = { st with
        builder := st.builder.add (analyzeFile l.path (l.readText failing))
        analyzedFiles :=
          if (l.readText failing).isEmpty then st.analyzedFiles else st.analyzedFiles + 1 })
      fun _ => False := by
  have hread : l.readText failing = if failing address then "" else l.text := by
    rw [Leaf.readText, hlocation]
    rfl
  unfold scanFile
  refine (Client.read_of_delivers hsignal hretries h).bind ?_
  rintro _ rfl
  rw [hread]
  exact (ensures_log _ _ _).bind fun _ _ => ensures_pure rfl

include hsignal hactive hretries in
theorem scanEntry_file {l : Leaf}
    (h : ∀ address, l.location = some address → address ≠ "" →
      a.client.Delivers failing address l.text)
    (descend : String → ScanState → Run ScanState) (st : ScanState) :
    (a.scanEntry descend ⟨l.name, l.path, .file, l.location⟩ st).Ensures
      (· = st.extend failing [l]) fun _ => False := by
  unfold scanEntry
  rw [hactive]
  refine ensures_requireActive_never.bind fun _ _ => ?_
  dsimp only
  rw [candidateLocation?_eq]
  cases hcandidate : l.isCandidate with
  | false =>
    rw [ScanState.extend_of_not_isCandidate hcandidate]
    exact ensures_pure rfl
  | true =>
    rw [ScanState.extend_of_isCandidate hcandidate, if_pos rfl]
    cases hlocation : l.location with
    | none => simp [Leaf.isCandidate, hlocation] at hcandidate
    | some address =>
      have haddress : address ≠ "" := by
        simp only [Leaf.isCandidate, hlocation, Option.any_some, Bool.and_eq_true] at hcandidate
        rintro rfl
        cases hcandidate.2
      exact scanFile_of_delivers hsignal hretries hlocation (h address hlocation haddress) _

/-- A directory that is not scanned leaves no trace in the state. -/
theorem scanEntry_directory_of_not_scanned {name : String}
    (hname : scanDirectories.contains name = false) (hactive : a.cancelled = .never)
    (path : String) (descend : String → ScanState → Run ScanState) (st : ScanState) :
    (a.scanEntry descend ⟨name, path, .directory, none⟩ st).Ensures (· = st) fun _ => False := by
  unfold scanEntry
  rw [hactive]
  refine ensures_requireActive_never.bind fun _ _ => ?_
  dsimp only
  split
  · exact (ensures_log _ _ _).bind fun _ _ => ensures_pure rfl
  · rw [hname]
    exact ensures_pure rfl

/-- No directory is to be scanned and to be skipped. -/
theorem not_skipped_of_scanned {name : String} (h : scanDirectories.contains name = true) :
    skipDirectories.contains name = false := by
  have hdisjoint : ∀ s ∈ scanDirectories, skipDirectories.contains s = false := by decide
  exact hdisjoint name (List.contains_iff_mem.1 h)

theorem scanEntry_directory_of_scanned {name path : String}
    (hname : scanDirectories.contains name = true) (hactive : a.cancelled = .never)
    {descend : String → ScanState → Run ScanState} {st : ScanState}
    {value : ScanState → Prop} {failure : Failure → Prop}
    (h : (descend path st).Ensures value failure) :
    (a.scanEntry descend ⟨name, path, .directory, none⟩ st).Ensures value failure := by
  unfold scanEntry
  rw [hactive]
  refine ensures_requireActive_never.bind fun _ _ => ?_
  dsimp only
  rw [not_skipped_of_scanned hname, hname]
  exact h

/-! ### The scan -/

include hsignal hactive hretries in
/-- **A scan extends its state by the visible files, in order**, unless directories are nested more
deeply than there are levels; then it fails.  By induction on the tree. -/
theorem scanEntries_of_servesBelow {folder : Folder} {trail : List String}
    (h : a.client.ServesBelow repo failing trail folder)
    (htrail : trail.all scanDirectories.contains = true) (levels : Nat) (st : ScanState) :
    (a.scanEntries repo levels (folder.entries trail) st).Ensures
      (fun st' => folder.depth ≤ levels ∧
        st' = st.extend failing ((folder.leaves trail).filter Leaf.isVisible))
      (fun f => levels < folder.depth ∧ f = .nestedTooDeeply) := by
  induction folder generalizing trail levels st with
  | empty =>
    rw [Folder.entries, scanEntries_nil]
    exact ensures_pure ⟨Nat.zero_le levels, rfl⟩
  | file name text location rest ih =>
    obtain ⟨hfile, hrest⟩ := h
    have hvisible : Leaf.isVisible ⟨trail, name, text, location⟩ = true := htrail
    rw [Folder.entries, scanEntries_cons, Folder.leaves, List.filter_cons_of_pos hvisible,
      ScanState.extend_cons]
    have hentry := scanEntry_file (l := ⟨trail, name, text, location⟩) hsignal hactive hretries
      hfile (a.descend repo levels) st
    refine hentry.of_infallible.bind ?_
    rintro _ rfl
    exact ih hrest htrail levels _
  | directory name below rest ihbelow ihrest =>
    obtain ⟨hlists, hbelow, hrest⟩ := h
    rw [Folder.entries, scanEntries_cons, Folder.leaves, List.filter_append,
      ScanState.extend_append, Folder.depth]
    cases hname : scanDirectories.contains name with
    | false =>
      rw [Folder.filter_leaves_of_not_scanned hname, ScanState.extend_nil]
      have hentry := scanEntry_directory_of_not_scanned hname hactive (pathOf (trail ++ [name]))
        (a.descend repo levels) st
      refine hentry.of_infallible.bind ?_
      rintro _ rfl
      exact ihrest hrest htrail levels _
    | true =>
      have htrail' : (trail ++ [name]).all scanDirectories.contains = true := by
        rw [List.all_append, htrail, List.all_cons, hname]
        rfl
      -- The levels that are left are those of the directory and one more.
      have hdescend : (a.descend repo levels (pathOf (trail ++ [name])) st).Ensures
          (fun st' => below.depth + 1 ≤ levels ∧
            st' = st.extend failing ((below.leaves (trail ++ [name])).filter Leaf.isVisible))
          (fun f => levels < below.depth + 1 ∧ f = .nestedTooDeeply) := by
        cases levels with
        | zero => exact ensures_throw ⟨Nat.succ_pos _, rfl⟩
        | succ levels =>
          have hlist := Client.list_of_lists hsignal hretries hlists
          refine hlist.of_infallible.bind ?_
          rintro _ rfl
          refine (ihbelow hbelow htrail' levels st).mono ?_ ?_
          · rintro st' ⟨hdepth, rfl⟩
            exact ⟨Nat.succ_le_succ hdepth, rfl⟩
          · rintro f ⟨hdepth, rfl⟩
            exact ⟨Nat.succ_lt_succ hdepth, rfl⟩
      rw [if_pos rfl]
      have hentry := scanEntry_directory_of_scanned hname hactive hdescend
      refine (hentry.mono_failure ?_).bind ?_
      · rintro f ⟨hdepth, rfl⟩
        exact ⟨by omega, rfl⟩
      · -- What follows the directory starts from the state that the directory left.
        rintro _ ⟨hdepth, rfl⟩
        refine (ihrest hrest htrail levels _).mono ?_ ?_
        · rintro st' ⟨hdepth', rfl⟩
          exact ⟨by omega, rfl⟩
        · rintro f ⟨hdepth', rfl⟩
          exact ⟨by omega, rfl⟩

/-! ### The run -/

/-- Once the scan is finished, the rest is a matter of what it found. -/
theorem resultOf_extend (a : Analyzer) (repo : Repository) (failing : String → Bool)
    (root : Folder) (url : String) :
    (a.resultOf url repo (ScanState.empty.extend failing root.visible)).Ensures
      (fun result => root.findings failing url repo a.client.now = .ok result)
      (fun f => root.findings failing url repo a.client.now = .error f) := by
  have hcandidates : (ScanState.empty.extend failing root.visible).candidates =
      root.candidates.length := Nat.zero_add _
  unfold resultOf Folder.findings
  rw [hcandidates]
  by_cases hempty : root.candidates = []
  · rw [if_pos (by rw [hempty]; rfl), if_pos (by rw [hempty]; rfl)]
    exact ensures_throw rfl
  · rw [if_neg (by rwa [List.length_eq_zero_iff]), if_neg (by rwa [List.isEmpty_iff])]
    refine (resolve_ensures (root.isUnconnected_graph failing)).bind ?_
    rintro _ rfl
    refine (ensures_log _ _ _).bind fun _ _ => ensures_pure ?_
    simp only [ScanState.extend, ScanState.empty, Nat.zero_add]
    rfl

include hsignal hretries in
/-- The branch that is listed is the one that was asked for. -/
theorem listRoot_of_lists {root : Folder} (h : a.client.Lists repo [] root) :
    (a.listRoot repo).Ensures (· = (repo, root.entries [])) fun _ => False := by
  unfold listRoot
  have hlist := Client.list_of_lists hsignal hretries h
  refine Ensures.tryCatch (hlist.bind ?_) fun f hf => hf.elim
  rintro _ rfl
  exact ensures_pure rfl

include hsignal hactive hretries in
/-- Once the branch is listed, the rest is a matter of the tree. -/
theorem explore_of_serves {root : Folder} (h : a.client.Serves repo root failing) (url : String) :
    (a.explore url repo).Ensures
      (fun result => root.outcome failing a.nesting url repo a.client.now = .ok result)
      (fun f => root.outcome failing a.nesting url repo a.client.now = .error f) := by
  unfold explore
  have hroot := listRoot_of_lists hsignal hretries h.listed
  refine hroot.of_infallible.bind ?_
  rintro _ rfl
  have hscan := scanEntries_of_servesBelow hsignal hactive hretries h.below rfl a.nesting .empty
  refine (hscan.mono_failure ?_).bind ?_
  · rintro f ⟨hdepth, rfl⟩
    exact if_pos hdepth
  · rintro _ ⟨hdepth, rfl⟩
    rw [Folder.outcome, if_neg (Nat.not_lt_of_le hdepth)]
    exact a.resultOf_extend repo failing root url

include hsignal hactive hretries in
/-- **A run finds out what is in the tree.**  Its outcome is that of a pure traversal: on any host
that serves a tree, whichever of the files cannot be read and whatever else there is to fall back
to. -/
theorem analyze_of_serves {root : Folder} (h : a.client.Serves repo root failing) {url : String}
    (hurl : Repository.ofAddress (some url) = .ok repo) (t : Trace) :
    ((a.analyze url).outcome t).1 = root.outcome failing a.nesting url repo a.client.now := by
  apply Ensures.outcome_eq
  unfold analyze
  rw [hurl]
  show ((pure repo : Run Repository) >>= _).Ensures _ _
  rw [pure_bind]
  refine (ensures_log _ _ _).bind fun _ _ => ?_
  have hprobe := Client.probe_of_serves hsignal hretries h
  have hexplore := explore_of_serves hsignal hactive hretries h url
  have hrun := hprobe.of_infallible.bind fun _ _ => hexplore
  refine hrun.tryCatch fun f hf => ?_
  rw [a.recover_of_not_isHostFailure repo url (Folder.not_isHostFailure_of_outcome hf)]
  exact ensures_throw hf

end

/-! ### A small repository -/

/-- A scanned directory with a file, and a file beside it. -/
def smallTree : Folder :=
  .directory "app" (.file "a.js" "let a" (some "u") .empty) <|
  .file "b.js" "let b" (some "v") .empty

/-- The listing of the small tree. -/
def smallListing : String :=
  "[\x7b\"path\":\"app\",\"name\":\"app\",\"type\":\"dir\"\x7d," ++
    "\x7b\"path\":\"b.js\",\"name\":\"b.js\",\"download_url\":\"v\"\x7d]"

/-- The listing of its directory. -/
def smallListingBelow : String :=
  "[\x7b\"path\":\"app/a.js\",\"name\":\"a.js\",\"download_url\":\"u\"\x7d]"

/-- A good answer. -/
def answerWith (body : String) : Response :=
  { status := 200, headers := [], body := Text.utf8Bytes body }

/-- A host that serves the small tree, but cannot be reached for one of its files. -/
def smallHost : Host := fun _ r =>
  match r.url with
  | "/repos/o/n" => .response (answerWith "[]")
  | "/repos/o/n/contents/" => .response (answerWith smallListing)
  | "/repos/o/n/contents/app" => .response (answerWith smallListingBelow)
  | "u" => .response (answerWith "let a")
  | _ => .unreachable "timeout"

def smallRepository : Repository := ⟨"github.com/o/n", "o", "n", "main"⟩

def smallAnalyzer : Analyzer where
  client := ⟨smallHost, { Settings.default with apiBaseUrl := "" }, .never,
    Demo.demoAnalysis.timestamp⟩
  cancelled := .never
  fallback := none

/-- An object with three texts in it. -/
def object3 (a b c : String × String) : Json :=
  .object [(a.1, .string a.2), (b.1, .string b.2), (c.1, .string c.2)]

/-- The lexemes of such an object. -/
def lexemes3 (a b c : String × String) : List Json.Lexeme :=
  [.mark .openObject, .string a.1, .mark .colon, .string a.2, .mark .comma,
    .string b.1, .mark .colon, .string b.2, .mark .comma,
    .string c.1, .mark .colon, .string c.2, .mark .closeObject]

/-- The value of a body, by way of its lexemes. -/
theorem bodyJson?_of_lexemes {r : Response} {l : List Json.Lexeme} {v : Json}
    (hfollowed : isNestedTooDeeply r = false)
    (hlexemes : (jsonChars? r).bind Json.lexemes? = some l) (hv : Json.ofLexemes? l = some v) :
    bodyJson? r = some v := by
  obtain ⟨text, htext, htokens⟩ := Option.bind_eq_some_iff.1 hlexemes
  rw [bodyJson?, hfollowed, if_neg Bool.false_ne_true, htext, Option.bind_some, Json.parse?,
    htokens, Option.bind_some, hv]

theorem bodyJson?_smallListing : bodyJson? (answerWith smallListing) = some (.array
    [object3 ("path", "app") ("name", "app") ("type", "dir"),
      object3 ("path", "b.js") ("name", "b.js") ("download_url", "v")]) := by
  apply bodyJson?_of_lexemes (l := .mark .openArray ::
    (lexemes3 ("path", "app") ("name", "app") ("type", "dir") ++ .mark .comma ::
      (lexemes3 ("path", "b.js") ("name", "b.js") ("download_url", "v") ++ [.mark .closeArray])))
  · decide +kernel
  · decide +kernel
  · rfl

theorem bodyJson?_smallListingBelow : bodyJson? (answerWith smallListingBelow) = some (.array
    [object3 ("path", "app/a.js") ("name", "a.js") ("download_url", "u")]) := by
  apply bodyJson?_of_lexemes (l := .mark .openArray ::
    (lexemes3 ("path", "app/a.js") ("name", "a.js") ("download_url", "u") ++ [.mark .closeArray]))
  · decide +kernel
  · decide +kernel
  · rfl

theorem serves_smallTree :
    smallAnalyzer.client.Serves smallRepository smallTree (· == "v") where
  known _ := ⟨answerWith "[]", rfl, rfl, by decide +kernel⟩
  listed _ := by
    refine ⟨answerWith smallListing, rfl, rfl, _, bodyJson?_smallListing, ?_⟩
    refine .directory ⟨by decide, rfl, rfl⟩ rfl ?_
    exact .file ⟨by decide, rfl, rfl⟩ nofun rfl .empty
  below := by
    refine ⟨?_, ⟨?_, trivial⟩, ?_, trivial⟩
    · intro _
      refine ⟨answerWith smallListingBelow, rfl, rfl, _, bodyJson?_smallListingBelow, ?_⟩
      exact .file ⟨by decide, rfl, rfl⟩ nofun rfl .empty
    · rintro _ ⟨⟩ -
      exact fun _ => ⟨answerWith "let a", rfl, rfl, by decide +kernel⟩
    · rintro _ ⟨⟩ -
      exact fun _ => trivial

/-- One of the two files of the small tree can be read. -/
theorem analyze_smallTree :
    ∃ result, ((smallAnalyzer.analyze "github.com/o/n").outcome .empty).1 = .ok result ∧
      result.totalFiles = 2 ∧ result.analyzedFiles = 1 := by
  have hvisible : smallTree.visible.length = 2 := by decide +kernel
  have hfilled : filledCount (· == "v") smallTree.candidates = 1 := by decide +kernel
  have hcandidates : smallTree.candidates.isEmpty = false := by decide +kernel
  have houtcome := analyze_of_serves (a := smallAnalyzer) rfl rfl (by decide) serves_smallTree
    (show Repository.ofAddress (some "github.com/o/n") = .ok smallRepository from rfl) .empty
  rw [Folder.outcome, if_neg (by decide), Folder.findings, hcandidates,
    if_neg Bool.false_ne_true] at houtcome
  refine ⟨_, houtcome, ?_, ?_⟩
  · exact congrArg Int.ofNat hvisible
  · exact congrArg Int.ofNat hfilled

end Analyzer

end NavGraph
