import NavGraph.Analyzer
import NavGraph.Proofs.Host.Call

/-!
# Entries and the calls that they ask for

An entry of a listing may ask for a call: a directory to be listed in its turn, or a file to be
read. Calls can be held against the entries in two ways: whether each was asked for by an entry that
was there before, and whether the entries have all got what they asked for.

## Main definitions

* `Entry.isScanned`, `Entry.isRead` - entries that ask for a call
* `AllowedInTurn` - each call was asked for by an entry received before it
* `IsComplete` - each entry that asks for a call got it, as often as it was received

## Design notes

Directories and files are counted by path and by address, not by entry: a host may list the same
path twice, and then it is to be called twice.  What was received grows while it is worked off, so
both notions speak of the entries at hand and of those that the calls themselves bring in.
-/

namespace NavGraph

open Source

/-! ### Entries -/

namespace Entry

/-- Whether an entry is a directory to scan. -/
def isScanned (e : Entry) : Bool :=
  e.kind == .directory && scanDirectories.contains e.name && !skipDirectories.contains e.name

/-- Whether an entry is a file to read. -/
def isRead (e : Entry) : Bool :=
  e.kind == .file && isCandidate e.path && e.location.any fun location => !location.isEmpty

/-- Whether an entry is no directory. -/
def isFile (e : Entry) : Bool := e.kind == .file

end Entry

/-! ### Calls -/

namespace Call

/-- The entries that a call brings in. -/
def received : Call → List Entry
  | list _ _ (.ok entries) => entries
  | _ => []

/-- Whether a call lists a directory. -/
def lists (path : String) : Call → Bool
  | list _ p _ => p == path
  | _ => false

/-- Whether a call reads a file. -/
def reads (location : String) : Call → Bool
  | read l _ => l == location
  | _ => false

/-- Whether a call brings in a text. -/
def hasText : Call → Bool
  | read _ (.ok text) => !text.isEmpty
  | _ => false

/-- A call came to something. -/
def Succeeds : Call → Prop
  | probe _ answer => ∃ known, answer = .ok known
  | list _ _ answer => ∃ entries, answer = .ok entries
  | read _ answer => ∃ text, answer = .ok text

/-- A call is asked for by one of the entries seen: it lists a directory of the repository that is
to be scanned, or it reads a file that is to be read. -/
def IsAllowed (repo : Repository) (seen : List Entry) : Call → Prop
  | probe _ _ => False
  | list repo' path _ => repo' = repo ∧ ∃ e ∈ seen, e.isScanned = true ∧ e.path = path
  | read location _ => ∃ e ∈ seen, e.isRead = true ∧ e.location = some location

end Call

/-- All entries that calls bring in. -/
def received (calls : List Call) : List Entry := calls.flatMap Call.received

/-- Each call is asked for by an entry that was seen before it. -/
def AllowedInTurn (repo : Repository) : List Entry → List Call → Prop
  | _, [] => True
  | seen, call :: later =>
      call.IsAllowed repo seen ∧ AllowedInTurn repo (seen ++ call.received) later

/-- Calls leave nothing out of some entries and of all that they bring in themselves: they come to
something, and each directory to scan and each file to read gets its call, once for each time it was
received. -/
structure IsComplete (entries : List Entry) (calls : List Call) : Prop where
  succeeds : ∀ call ∈ calls, call.Succeeds
  listed : ∀ path, calls.countP (·.lists path) =
    (entries ++ received calls).countP fun e => e.isScanned && e.path == path
  read : ∀ location, calls.countP (·.reads location) =
    (entries ++ received calls).countP fun e => e.isRead && e.location == some location

section

variable {repo : Repository} {seen : List Entry} {calls more : List Call}

@[simp] theorem received_nil : received [] = [] := rfl

@[simp] theorem received_cons (call : Call) (calls : List Call) :
    received (call :: calls) = call.received ++ received calls := rfl

@[simp] theorem received_append (calls more : List Call) :
    received (calls ++ more) = received calls ++ received more :=
  List.flatMap_append

theorem Call.IsAllowed.mono {seen' : List Entry} {call : Call} (h : call.IsAllowed repo seen)
    (hseen : seen ⊆ seen') : call.IsAllowed repo seen' := by
  cases call with
  | probe => exact h
  | list repo' path answer =>
    obtain ⟨hrepo, e, he, hscanned⟩ := h
    exact ⟨hrepo, e, hseen he, hscanned⟩
  | read location answer =>
    obtain ⟨e, he, hread⟩ := h
    exact ⟨e, hseen he, hread⟩

theorem AllowedInTurn.mono {seen' : List Entry} (h : AllowedInTurn repo seen calls)
    (hseen : seen ⊆ seen') : AllowedInTurn repo seen' calls := by
  induction calls generalizing seen seen' with
  | nil => trivial
  | cons call later ih =>
    refine ⟨h.1.mono hseen, ih h.2 ?_⟩
    exact List.append_subset.2
      ⟨List.subset_append_of_subset_left _ hseen, List.subset_append_right _ _⟩

theorem AllowedInTurn.append (h : AllowedInTurn repo seen calls)
    (hmore : AllowedInTurn repo (seen ++ received calls) more) :
    AllowedInTurn repo seen (calls ++ more) := by
  induction calls generalizing seen with
  | nil => simpa using hmore
  | cons call later ih =>
    refine ⟨h.1, ih h.2 ?_⟩
    rwa [List.append_assoc]

/-- Two batches of entries can be worked off one after the other. -/
theorem IsComplete.append {entries others : List Entry} (h : IsComplete entries calls)
    (hmore : IsComplete others more) : IsComplete (entries ++ others) (calls ++ more) where
  succeeds := List.forall_mem_append.2 ⟨h.succeeds, hmore.succeeds⟩
  listed path := by
    have hlisted := h.listed path
    have hothers := hmore.listed path
    simp only [received_append, List.countP_append] at hlisted hothers ⊢
    omega
  read location := by
    have hread := h.read location
    have hothers := hmore.read location
    simp only [received_append, List.countP_append] at hread hothers ⊢
    omega

/-- An entry that asks for nothing needs no call. -/
theorem isComplete_of_idle {e : Entry} (hscanned : e.isScanned = false) (hread : e.isRead = false) :
    IsComplete [e] [] where
  succeeds := nofun
  listed path := by simp [hscanned]
  read location := by simp [hread]

/-- A file to read needs one call. -/
theorem isComplete_of_isRead {e : Entry} {location text : String} (hscanned : e.isScanned = false)
    (hread : e.isRead = true) (hlocation : e.location = some location) :
    IsComplete [e] [.read location (.ok text)] where
  succeeds := by
    rintro call hcall
    rw [List.mem_singleton.1 hcall]
    exact ⟨text, rfl⟩
  listed path := by simp [Call.lists, Call.received, hscanned]
  read address := by simp [Call.reads, Call.received, hread, hlocation, List.countP_cons]

/-- A directory to scan needs one call, and what this brings in needs calls of its own. -/
theorem IsComplete.below {e : Entry} {below : List Entry} (h : IsComplete below calls)
    (hscanned : e.isScanned = true) (hread : e.isRead = false) :
    IsComplete [e] (.list repo e.path (.ok below) :: calls) where
  succeeds := List.forall_mem_cons.2 ⟨⟨below, rfl⟩, h.succeeds⟩
  listed path := by
    have hlisted := h.listed path
    simp only [received_cons, Call.received, List.countP_append, List.countP_cons, List.countP_nil,
      Call.lists, hscanned, Bool.true_and] at hlisted ⊢
    omega
  read location := by
    have hbelow := h.read location
    simp only [received_cons, Call.received, List.countP_append, List.countP_cons, List.countP_nil,
      Call.reads, hread, Bool.false_and] at hbelow ⊢
    omega

end

end NavGraph
