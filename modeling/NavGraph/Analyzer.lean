import NavGraph.Demo.Provider
import NavGraph.Graph.Builder
import NavGraph.Graph.Journeys
import NavGraph.Host.Address
import NavGraph.Host.Client

/-!
# The analyzer

A run from the address of a repository to its graph: the repository is probed, its tree scanned
depth first in the order of the listings, each candidate file read and analyzed, and the graph
connected.

## Main definitions

* `Analyzer` - a client, when to stop, and what stands in for a failed run
* `Analyzer.assemble` - an analyzer whose client may have a signal of its own
* `Analyzer.scanEntries` - the scan of a listing and all that lies below it
* `Analyzer.explore` - the scan of a repository and the result built from it
* `Analyzer.analyze` - the whole run

## Design notes

Directories are followed down to a **nesting limit**, which belongs to the machine that runs the
analysis and not to the repository.  A host may answer every listing with one more directory, and
the limit is what makes such a run end; it is its own failure, so that no result can rest on a tree
that was cut off.
-/

namespace NavGraph

open NavGraph.Graph NavGraph.Source

/-- The part of the program that notes down how a run goes. -/
def pipelineLogger : String := "flowscope.pipeline"

/-- The part of the program that notes down how a graph is built. -/
def graphLogger : String := "flowscope.graph"

/-- Directories that are scanned. -/
def scanDirectories : List String :=
  ["src", "app", "pages", "components", "routes", "screens", "views", "layouts"]

/-- Directories that are skipped with a note. -/
def skipDirectories : List String :=
  ["node_modules", ".git", ".next", ".nuxt", "dist", "build", "out", "coverage", "vendor",
    "__pycache__"]

/-- How deeply directories may be nested where nothing else is said. -/
def nestingLimit : Nat := 490

/-- What a scan has found so far. -/
structure ScanState where
  builder : Builder
  /-- Files worth reading that have a content. -/
  candidates : Nat
  totalFiles : Nat
  analyzedFiles : Nat

/-- Nothing found yet. -/
def ScanState.empty : ScanState := ⟨.empty, 0, 0, 0⟩

/-- A client, when to stop, and what stands in for a failed run. -/
structure Analyzer where
  client : Client
  cancelled : Signal
  fallback : Option Analysis
  /-- How deeply the machine can follow nested directories. -/
  nesting : Nat := nestingLimit

/-- A number in a line of the journal. -/
def countText (n : Nat) : String := String.ofList (Text.digitsOfNat n)

namespace Analyzer

/-- An analyzer put together from a client and two signals, each of which may be missing.  A client
without a signal of its own takes over the analyzer's. -/
def assemble (client : Client) (own given : Option Signal) (fallback : Option Analysis) :
    Analyzer where
  client := { client with cancelled := (own.or given).getD .never }
  cancelled := given.getD .never
  fallback := fallback

/-- Read and analyze a file. -/
def scanFile (a : Analyzer) (path location : String) (st : ScanState) : Run ScanState := do
  let text ← a.client.read location
  let analysis := analyzeFile path text
  Run.log .debug pipelineLogger
    (path ++ ": " ++ countText analysis.nodes.length ++ " nodes, " ++
      countText analysis.references.length ++ " references")
  return { st with
    builder := st.builder.add analysis
    analyzedFiles := if text.isEmpty then st.analyzedFiles else st.analyzedFiles + 1 }

/-- The place of the content of a file that is worth reading. -/
def candidateLocation? (e : Entry) : Option String :=
  match e.location with
  | none => none
  | some location => if isCandidate e.path && !location.isEmpty then some location else none

/-- Scan one entry; `descend` scans a directory. -/
def scanEntry (a : Analyzer) (descend : String → ScanState → Run ScanState) (e : Entry)
    (st : ScanState) : Run ScanState := do
  Run.requireActive a.cancelled
  match e.kind with
  | .directory =>
      if skipDirectories.contains e.name then do
        Run.log .debug pipelineLogger ("Skipping " ++ e.path)
        return st
      else if scanDirectories.contains e.name then descend e.path st
      else return st
  | .file =>
      let st := { st with totalFiles := st.totalFiles + 1 }
      match candidateLocation? e with
      | none => return st
      | some location => a.scanFile e.path location { st with candidates := st.candidates + 1 }

/-- Scan entries in order. -/
def scanEach (a : Analyzer) (descend : String → ScanState → Run ScanState) :
    List Entry → ScanState → Run ScanState
  | [], st => return st
  | e :: rest, st => do
      let st ← a.scanEntry descend e st
      scanEach a descend rest st

/-- Scan entries and the directories among them, down to so many levels. -/
def scanEntries (a : Analyzer) (repo : Repository) : Nat → List Entry → ScanState → Run ScanState
  | 0 => a.scanEach fun _ _ => throw .nestedTooDeeply
  | levels + 1 => a.scanEach fun path st => do
      let entries ← a.client.list repo path
      scanEntries a repo levels entries st

/-- The root listing, and the branch that has it: the default branch may go by another name. -/
def listRoot (a : Analyzer) (repo : Repository) : Run (Repository × List Entry) :=
  tryCatch (do return (repo, ← a.client.list repo "")) fun f =>
    match f with
    | .repositoryNotFound _ =>
        if repo.branch = defaultBranch then do
          Run.log .warning pipelineLogger
            ("No tree on " ++ defaultBranch ++ "; retrying " ++ repo.owner ++ "/" ++ repo.name ++
              " on " ++ fallbackBranch)
          let repo := { repo with branch := fallbackBranch }
          return (repo, ← a.client.list repo "")
        else throw f
    | f => throw f

/-- Connect the graph, and refuse it if a connection leads out of it. -/
def resolve (b : Builder) : Run Builder := do
  let (connected, verdict) := b.resolve
  Run.log .debug graphLogger
    ("Resolved " ++ countText b.resolvedCount ++ " connections, dropped " ++
      countText b.droppedCount ++ " unmatched references")
  Run.ofExcept verdict
  return connected

/-- The result of a finished scan. -/
def resultOf (a : Analyzer) (url : String) (repo : Repository) (st : ScanState) :
    Run Analysis := do
  if st.candidates = 0 then throw (.emptyResult repo.name)
  let builder ← resolve st.builder
  let routes := builder.routes
  Run.log .info pipelineLogger
    ("Found " ++ countText builder.nodes.length ++ " nodes, " ++ countText routes.length ++
      " routes in " ++ countText st.analyzedFiles ++ "/" ++ countText st.totalFiles ++ " files")
  return {
    repoUrl := url
    repoName := repo.name
    nodes := builder.nodes
    routes := routes
    journeys := journeys builder.nodes
    totalFiles := Int.ofNat st.totalFiles
    analyzedFiles := Int.ofNat st.analyzedFiles
    timestamp := a.client.now }

/-- Scan a repository and build the result. -/
def explore (a : Analyzer) (url : String) (repo : Repository) : Run Analysis := do
  let (repo, root) ← a.listRoot repo
  let st ← a.scanEntries repo a.nesting root .empty
  a.resultOf url repo st

/-- What happens when a run fails: demonstration data stands in for a failure of the host if there
is any, and all else stays a failure. -/
def recover (a : Analyzer) (url : String) (repo : Repository) (f : Failure) : Run Analysis :=
  match a.fallback with
  | none => throw f
  | some dataset =>
      if f.isHostFailure then do
        Run.log .warning pipelineLogger
          ("GitHub unavailable for " ++ repo.owner ++ "/" ++ repo.name ++ " (" ++ f.message ++
            "); returning demo analysis")
        return dataset.standIn url repo.name f a.client.now
      else throw f

/-- A run for a repository whose address was understood. -/
def analyzeRepository (a : Analyzer) (url : String) (repo : Repository) : Run Analysis :=
  tryCatch (do
    let _ ← a.client.probe repo
    a.explore url repo) (a.recover url repo)

/-- A run from an address to a result. -/
def analyze (a : Analyzer) (url : String) : Run Analysis := do
  let repo ← Run.ofExcept (Repository.ofAddress (some url))
  Run.log .info pipelineLogger
    ("Analyzing repository " ++ repo.owner ++ "/" ++ repo.name ++ "@" ++ repo.branch)
  a.analyzeRepository url repo

end Analyzer

end NavGraph
