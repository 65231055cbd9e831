import NavGraph.Proofs.Analyzer.Account
import NavGraph.Proofs.Analyzer.Substitution

/-!
# The calls of a run

Which calls a run makes on its client, whatever the host answers and whenever it is asked to stop:
first those that lead to a root listing, then those of the scan.  No directory is listed and no file
is read but for an entry that was received before, and a run with a result has left none out.

## Main definitions

* `Analyzer.Explores` - the calls of a scan
* `Opens`, `FindsRoot` - the calls on the way to a root listing
* `Account` - the calls of a whole run

## Main statements

* `scanEntries_makes` - the calls of a scan
* `seek_makes`, `calls_analyze` - the calls of whole runs
* `analyze_accounts` - what they say of each request of a run and of its result

## Design notes

An account belongs to a run with nothing to fall back to.  A run with data to fall back to makes the
same calls, and ends in a result that it did not find exactly where the account has none.
-/

namespace NavGraph

open Run Source

namespace Analyzer

/-! ### The scan -/

/-- The calls of a scan of some entries, together with how it ends: each was asked for, and where
the scan comes to its end none is left out and all is counted. -/
structure Explores (repo : Repository) (entries : List Entry) (st : ScanState) (calls : List Call)
    (outcome : Except Failure ScanState) : Prop where
  allowed : AllowedInTurn repo entries calls
  complete : ∀ st', outcome = .ok st' → IsComplete entries calls
  counted : ∀ st', outcome = .ok st' →
    st'.totalFiles = st.totalFiles + (entries ++ received calls).countP Entry.isFile ∧
      st'.analyzedFiles = st.analyzedFiles + calls.countP Call.hasText

/-- The calls of a scan that goes down into a directory, if it does, together with how it ends. -/
inductive Descends (repo : Repository) (path : String) (st : ScanState) :
    List Call → Except Failure ScanState → Prop where
  | refused (f : Failure) : Descends repo path st [] (.error f)
  | unlisted (f : Failure) : Descends repo path st [.list repo path (.error f)] (.error f)
  | listed {below : List Entry} {calls : List Call} {outcome : Except Failure ScanState}
      (h : Explores repo below st calls outcome) :
      Descends repo path st (.list repo path (.ok below) :: calls) outcome

section

variable {repo : Repository} {entries others : List Entry} {st st' : ScanState}
  {calls more : List Call} {outcome : Except Failure ScanState}

theorem Explores.append (h : Explores repo entries st calls (.ok st'))
    (hmore : Explores repo others st' more outcome) :
    Explores repo (entries ++ others) st (calls ++ more) outcome where
  allowed := by
    refine (h.allowed.mono (List.subset_append_left _ _)).append (hmore.allowed.mono ?_)
    intro e he
    exact List.mem_append_left _ (List.mem_append_right _ he)
  complete st'' ho := (h.complete st' rfl).append (hmore.complete st'' ho)
  counted st'' ho := by
    obtain ⟨htotal, hanalyzed⟩ := h.counted st' rfl
    obtain ⟨htotal', hanalyzed'⟩ := hmore.counted st'' ho
    simp only [received_append, List.countP_append] at htotal htotal' ⊢
    exact ⟨by omega, by omega⟩

/-- A scan that fails needs no more than that its calls were asked for. -/
theorem Explores.of_error {f : Failure} (h : AllowedInTurn repo entries calls) :
    Explores repo entries st calls (.error f) :=
  ⟨h, nofun, nofun⟩

theorem Explores.nil (st : ScanState) : Explores repo [] st [] (.ok st) where
  allowed := trivial
  complete _ _ := ⟨nofun, fun _ => rfl, fun _ => rfl⟩
  counted := by
    rintro _ ⟨⟩
    exact ⟨rfl, rfl⟩

/-- An entry that asks for nothing is counted at most. -/
theorem Explores.of_idle {e : Entry} (hscanned : e.isScanned = false) (hread : e.isRead = false)
    (htotal : st'.totalFiles = st.totalFiles + if e.isFile then 1 else 0)
    (hanalyzed : st'.analyzedFiles = st.analyzedFiles) : Explores repo [e] st [] (.ok st') where
  allowed := trivial
  complete _ _ := isComplete_of_idle hscanned hread
  counted := by
    rintro _ ⟨⟩
    refine ⟨?_, hanalyzed⟩
    rw [htotal, received_nil, List.append_nil, List.countP_cons, List.countP_nil, Nat.zero_add]

/-- A scan of an entry that goes down into a directory is what follows from the entry. -/
theorem Descends.explores {e : Entry} (h : Descends repo e.path st calls outcome)
    (hscanned : e.isScanned = true) (hread : e.isRead = false) (hfile : e.isFile = false) :
    Explores repo [e] st calls outcome := by
  have hallowed : ∀ answer, (Call.list repo e.path answer).IsAllowed repo [e] :=
    fun _ => ⟨rfl, e, List.mem_singleton.2 rfl, hscanned, rfl⟩
  cases h with
  | refused f => exact .of_error trivial
  | unlisted f => exact .of_error ⟨hallowed _, trivial⟩
  | listed h =>
    constructor
    case allowed => exact ⟨hallowed _, h.allowed.mono (List.subset_append_right _ _)⟩
    case complete => exact fun st' ho => (h.complete st' ho).below hscanned hread
    case counted =>
      intro st' ho
      obtain ⟨htotal, hanalyzed⟩ := h.counted st' ho
      simp only [received_cons, Call.received, List.countP_append, List.countP_cons,
        List.countP_nil, Call.hasText, hfile, Bool.false_eq_true, if_false] at htotal hanalyzed ⊢
      exact ⟨by omega, by omega⟩

end

variable (a : Analyzer) (repo : Repository)

theorem scanFile_makes {e : Entry} {location : String} (hread : e.isRead = true)
    (hlocation : e.location = some location) (hscanned : e.isScanned = false)
    (hfile : e.isFile = true) (st : ScanState) :
    a.client.Makes (a.scanFile e.path location
      { st with totalFiles := st.totalFiles + 1, candidates := st.candidates + 1 })
      (Explores repo [e] st) := by
  have hallowed : ∀ answer, AllowedInTurn repo [e] [.read location answer] :=
    fun _ => ⟨⟨e, List.mem_singleton.2 rfl, hread, hlocation⟩, trivial⟩
  unfold scanFile
  refine (Client.makes_read location).bind ?_ ?_
  · rintro text _ rfl
    refine Client.Makes.after_log ?_ _ _ _
    refine Client.makes_pure ⟨hallowed _, ?_, ?_⟩
    · exact fun _ _ => isComplete_of_isRead hscanned hread hlocation
    · rintro _ ⟨⟩
      simp only [List.append_nil, received_cons, Call.received, received_nil, List.countP_cons,
        List.countP_nil, hfile, Call.hasText, if_true]
      by_cases htext : text.isEmpty = true
      · simp [htext]
      · simp [htext]
  · rintro f _ rfl
    exact .of_error (hallowed _)

theorem isRead_of_candidateLocation?_eq_some {e : Entry} {location : String}
    (hfile : e.isFile = true) (h : candidateLocation? e = some location) :
    e.isRead = true ∧ e.location = some location := by
  unfold candidateLocation? at h
  split at h
  · cases h
  · rename_i address haddress
    split at h
    · rename_i hcandidate
      cases h
      have hread : (e.kind == .file) = true := hfile
      rw [Bool.and_eq_true] at hcandidate
      simp only [Entry.isRead, hread, hcandidate.1, haddress, Option.any_some, hcandidate.2]
      exact ⟨rfl, trivial⟩
    · cases h

theorem isRead_of_candidateLocation?_eq_none {e : Entry} (h : candidateLocation? e = none) :
    e.isRead = false := by
  unfold candidateLocation? at h
  cases hlocation : e.location with
  | none => simp [Entry.isRead, hlocation]
  | some location =>
    rw [hlocation] at h
    cases hkind : e.kind <;> simp_all [Entry.isRead]

theorem scanEntry_makes {descend : String → ScanState → Run ScanState}
    (hdescend : ∀ path st, a.client.Makes (descend path st) (Descends repo path st)) (e : Entry)
    (st : ScanState) : a.client.Makes (a.scanEntry descend e st) (Explores repo [e] st) := by
  unfold scanEntry
  refine Client.Makes.after_requireActive ?_ _ (.of_error trivial)
  cases hkind : e.kind with
  | directory =>
    have hfile : e.isFile = false := by rw [Entry.isFile, hkind]; rfl
    have hread : e.isRead = false := by rw [Entry.isRead, hkind]; rfl
    dsimp only
    by_cases hskipped : skipDirectories.contains e.name = true
    · have hscanned : e.isScanned = false := by rw [Entry.isScanned, hskipped]; simp
      rw [if_pos hskipped]
      refine Client.Makes.after_log ?_ _ _ _
      exact Client.makes_pure (.of_idle hscanned hread (by rw [hfile]; rfl) rfl)
    · rw [if_neg hskipped]
      by_cases hname : scanDirectories.contains e.name = true
      · have hscanned : e.isScanned = true := by
          rw [Bool.not_eq_true] at hskipped
          rw [Entry.isScanned, hkind, hname, hskipped]
          rfl
        rw [if_pos hname]
        exact (hdescend e.path st).mono fun _ _ h => h.explores hscanned hread hfile
      · have hscanned : e.isScanned = false := by
          rw [Bool.not_eq_true] at hname
          rw [Entry.isScanned, hname]
          simp
        rw [if_neg hname]
        exact Client.makes_pure (.of_idle hscanned hread (by rw [hfile]; rfl) rfl)
  | file =>
    have hfile : e.isFile = true := by rw [Entry.isFile, hkind]; rfl
    have hscanned : e.isScanned = false := by rw [Entry.isScanned, hkind]; rfl
    dsimp only
    cases hlocation : candidateLocation? e with
    | none =>
      have hread := isRead_of_candidateLocation?_eq_none hlocation
      exact Client.makes_pure (.of_idle hscanned hread (by rw [hfile]; rfl) rfl)
    | some location =>
      obtain ⟨hread, haddress⟩ := isRead_of_candidateLocation?_eq_some hfile hlocation
      exact a.scanFile_makes repo hread haddress hscanned hfile st

theorem scanEach_makes {descend : String → ScanState → Run ScanState}
    (hdescend : ∀ path st, a.client.Makes (descend path st) (Descends repo path st))
    (entries : List Entry) (st : ScanState) :
    a.client.Makes (a.scanEach descend entries st) (Explores repo entries st) := by
  induction entries generalizing st with
  | nil => exact Client.makes_pure (.nil st)
  | cons e rest ih =>
    refine (a.scanEntry_makes repo hdescend e st).bind ?_ ?_
    · intro st' calls h
      exact (ih st').mono fun _ _ hrest => h.append hrest
    · intro f calls h
      exact .of_error (h.allowed.mono (List.cons_subset_cons e (List.nil_subset rest)))

/-- **The calls of a scan**, by induction on the levels that it may still go down: each is asked for
by an entry received before, and a scan that comes to its end leaves none out. -/
theorem scanEntries_makes (levels : Nat) (entries : List Entry) (st : ScanState) :
    a.client.Makes (a.scanEntries repo levels entries st) (Explores repo entries st) := by
  induction levels generalizing entries st with
  | zero => exact a.scanEach_makes repo (fun _ _ => Client.makes_throw (.refused _)) entries st
  | succ levels ih =>
    refine a.scanEach_makes repo (fun path st => ?_) entries st
    refine (Client.makes_list repo path).bind ?_ ?_
    · rintro below _ rfl
      exact (ih below st).mono fun _ _ h => .listed h
    · rintro f _ rfl
      exact .unlisted f

/-! ### The way to a root listing -/

end Analyzer

/-- The same repository on the branch that is tried second. -/
def Repository.onFallbackBranch (repo : Repository) : Repository :=
  { repo with branch := fallbackBranch }

/-- The calls on the way to a root listing, and where it is found: the second branch is tried where
the first one is the default and its root is not there, and only then. -/
inductive FindsRoot (repo : Repository) : List Call → Option (Repository × List Entry) → Prop where
  | listed (root : List Entry) : FindsRoot repo [.list repo "" (.ok root)] (some (repo, root))
  | unlisted (f : Failure)
      (h : ¬ (repo.branch = defaultBranch ∧ ∃ message, f = .repositoryNotFound message)) :
      FindsRoot repo [.list repo "" (.error f)] none
  | listedSecond (h : repo.branch = defaultBranch) (message : String) (root : List Entry) :
      FindsRoot repo [.list repo "" (.error (.repositoryNotFound message)),
        .list repo.onFallbackBranch "" (.ok root)] (some (repo.onFallbackBranch, root))
  | unlistedTwice (h : repo.branch = defaultBranch) (message : String) (f : Failure) :
      FindsRoot repo [.list repo "" (.error (.repositoryNotFound message)),
        .list repo.onFallbackBranch "" (.error f)] none

/-- The calls of a run up to its root listing: the repository has to be known first. -/
inductive Opens (repo : Repository) : List Call → Option (Repository × List Entry) → Prop where
  | unknown (f : Failure) : Opens repo [.probe repo (.error f)] none
  | known (fields : List (String × Json)) {calls : List Call}
      {found : Option (Repository × List Entry)} (h : FindsRoot repo calls found) :
      Opens repo (.probe repo (.ok fields) :: calls) found

/-- The calls of a scan from a root listing on, together with the outcome of the run: each was asked
for by an entry received before, and a result stands for a scan that left none out, and counts the
files that it saw and the texts that it read. -/
structure Scans (repo : Repository) (root : List Entry) (calls : List Call)
    (outcome : Except Failure Analysis) : Prop where
  allowed : AllowedInTurn repo root calls
  complete : ∀ result, outcome = .ok result → IsComplete root calls
  totalFiles_eq : ∀ result, outcome = .ok result →
    result.totalFiles = (root ++ received calls).countP Entry.isFile
  analyzedFiles_eq : ∀ result, outcome = .ok result →
    result.analyzedFiles = calls.countP Call.hasText

/-- The calls of a run for a repository, together with its outcome: without a root listing there is
no result, and with one there follows a scan of what it lists. -/
inductive Account (repo : Repository) : List Call → Except Failure Analysis → Prop where
  | lost {opening : List Call} (f : Failure) (h : Opens repo opening none) :
      Account repo opening (.error f)
  | explored {opening scan : List Call} {repo' : Repository} {root : List Entry}
      {outcome : Except Failure Analysis} (h : Opens repo opening (some (repo', root)))
      (scans : Scans repo' root scan outcome) : Account repo (opening ++ scan) outcome

namespace Analyzer

variable (a : Analyzer) (repo : Repository)

/-- One attempt at a root is one call, and a root that is found is found there. -/
theorem root_makes : a.client.Makes (do return (repo, ← a.client.list repo ""))
    fun calls outcome => ∃ answer, calls = [.list repo "" answer] ∧
      outcome = answer.map fun root => (repo, root) := by
  refine (Client.makes_list repo "").bind ?_ ?_
  · rintro root _ rfl
    exact Client.makes_pure ⟨.ok root, rfl, rfl⟩
  · rintro f _ rfl
    exact ⟨.error f, rfl, rfl⟩

theorem listRoot_makes :
    a.client.Makes (a.listRoot repo) fun calls outcome =>
      FindsRoot repo calls outcome.toOption := by
  unfold listRoot
  refine (a.root_makes repo).tryCatch ?_ ?_
  · rintro found _ ⟨_ | root, rfl, houtcome⟩ <;> cases houtcome
    exact .listed root
  · rintro f _ ⟨g | _, rfl, houtcome⟩ <;> cases houtcome
    split
    · rename_i message
      by_cases hbranch : repo.branch = defaultBranch
      · rw [if_pos hbranch]
        refine Client.Makes.after_log ?_ _ _ _
        refine (a.root_makes repo.onFallbackBranch).mono ?_
        rintro _ _ ⟨_ | root, rfl, rfl⟩
        · exact .unlistedTwice hbranch message _
        · exact .listedSecond hbranch message root
      · rw [if_neg hbranch]
        exact Client.makes_throw (.unlisted _ fun h => hbranch h.1)
    · rename_i hother
      refine Client.makes_throw (.unlisted _ ?_)
      rintro ⟨-, message, rfl⟩
      exact hother message rfl

/-! ### The run -/

theorem resolve_makes (b : Graph.Builder) :
    a.client.Makes (resolve b) fun calls _ => calls = [] := by
  unfold resolve
  refine Client.Makes.after_log ?_ _ _ _
  refine (Client.makes_ofExcept _).bind ?_ ?_
  · rintro _ _ ⟨rfl, -⟩
    exact Client.makes_pure rfl
  · rintro _ _ ⟨rfl, -⟩
    rfl

/-- A finished scan makes no more calls, and its result has its counts. -/
theorem resultOf_makes (url : String) (st : ScanState) :
    a.client.Makes (a.resultOf url repo st) fun calls outcome => calls = [] ∧
      ∀ result, outcome = .ok result →
        result.totalFiles = st.totalFiles ∧ result.analyzedFiles = st.analyzedFiles := by
  unfold resultOf
  split
  · exact Client.makes_throw ⟨rfl, nofun⟩
  · refine (a.resolve_makes st.builder).bind ?_ ?_
    · rintro connected _ rfl
      refine Client.Makes.after_log ?_ _ _ _
      refine Client.makes_pure ⟨rfl, ?_⟩
      rintro _ ⟨⟩
      exact ⟨rfl, rfl⟩
    · rintro f _ rfl
      exact ⟨rfl, nofun⟩

/-- The calls of a scan from its root on. -/
theorem scan_makes (url : String) (root : List Entry) :
    a.client.Makes (a.scanEntries repo a.nesting root .empty >>= a.resultOf url repo)
      (Scans repo root) := by
  refine (a.scanEntries_makes repo a.nesting root .empty).bind ?_ ?_
  · intro st calls h
    obtain ⟨htotal, hanalyzed⟩ := h.counted st rfl
    refine (a.resultOf_makes repo url st).mono ?_
    rintro _ outcome ⟨rfl, hresult⟩
    rw [List.append_nil]
    constructor
    case allowed => exact h.allowed
    case complete => exact fun _ _ => h.complete st rfl
    case totalFiles_eq =>
      intro result ho
      rw [(hresult result ho).1, htotal]
      simp [ScanState.empty]
    case analyzedFiles_eq =>
      intro result ho
      rw [(hresult result ho).2, hanalyzed]
      simp [ScanState.empty]
  · exact fun f calls h => ⟨h.allowed, nofun, nofun, nofun⟩

/-- **The calls of what a run seeks.** -/
theorem seek_makes (url : String) : a.client.Makes (a.seek repo url) (Account repo) := by
  refine (Client.makes_probe repo).bind ?_ ?_
  · rintro fields _ rfl
    refine (a.listRoot_makes repo).bind ?_ ?_
    · rintro ⟨repo', root⟩ calls hroot
      have hopening : Opens repo (.probe repo (.ok fields) :: calls) (some (repo', root)) :=
        .known fields hroot
      refine (a.scan_makes repo' url root).mono fun scan outcome hscan => ?_
      have haccount := Account.explored hopening hscan
      exact haccount
    · intro f calls hroot
      exact .lost f (.known fields hroot)
  · rintro f _ rfl
    exact .lost f (.unknown f)

/-- **Whole runs, call by call.**  A run can be told as calls that account for its outcome with
nothing to fall back to; what there is to fall back to adds none. -/
theorem calls_analyze {repo : Repository} {url : String}
    (hurl : Repository.ofAddress (some url) = .ok repo) (t : Trace) :
    ∃ calls, a.client.Calls t calls ((a.analyze url).outcome t).2 ∧
      Account repo calls (((a.withFallback none).analyze url).outcome t).1 := by
  obtain ⟨calls, hcalls, haccount⟩ := a.seek_makes repo url (repo.announced t)
  obtain ⟨lines, hlines⟩ := exists_lines_analyze a hurl t
  rw [outcome_analyze_without hurl, hlines]
  exact ⟨calls, hcalls.of_noted.noted lines, haccount⟩

/-- **Scans are safe and complete on every host.**  Without a repository to ask for nothing is done.
Otherwise a run is a list of calls: from the root listing on, each lists a directory or reads a file
for an entry received before, and if the run finds a result, every entry received got its call, and
the result counts the files received and the texts read. -/
theorem analyze_accounts (a : Analyzer) (url : String) (t : Trace) :
    match Repository.ofAddress (some url) with
    | .error _ => ((a.analyze url).outcome t).2 = t
    | .ok repo => ∃ calls, a.client.Calls t calls ((a.analyze url).outcome t).2 ∧
        Account repo calls (((a.withFallback none).analyze url).outcome t).1 := by
  cases hurl : Repository.ofAddress (some url) with
  | error f => exact congrArg Prod.snd (a.outcome_analyze_of_error hurl t)
  | ok repo => exact a.calls_analyze hurl t

end Analyzer

end NavGraph
