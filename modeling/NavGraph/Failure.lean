import NavGraph.Json.Basic
import NavGraph.Schema.Problem
import NavGraph.Text.Quoted
import NavGraph.Text.Trim
import NavGraph.Time.Timestamp

/-!
# Failures

Everything that can end a run without a result, by cause.

## Main definitions

* `Failure` - the causes
* `Failure.message` - what a user is told
* `Failure.isReported` - the failures that a run is expected to end in
* `Failure.isHostFailure` - the failures that demonstration data may stand in for
* `Failure.httpStatus`, `Failure.httpDetail` - the failure as the answer of a web service
-/

namespace NavGraph

/-- Why a run has no result. -/
inductive Failure where
  /-- The text is not the address of a repository; it may be absent. -/
  | invalidReference (text : Option String)
  /-- The repository, or something in it, is not there. -/
  | repositoryNotFound (message : String)
  /-- The host refuses to answer until a time. -/
  | rateLimited (reset : Time.Timestamp)
  /-- The host gave another bad answer, or with no status none at all. -/
  | hostError (status : Option Int) (detail : String)
  /-- The repository has nothing to analyze. -/
  | emptyResult (repository : String)
  /-- The run was cancelled. -/
  | cancelled
  /-- The settings do not hold together. -/
  | invalidSettings (problems : List Schema.Problem)
  /-- Another failure that is told by its message alone. -/
  | other (message : String)
  /-- A connection leads to a node that is not there. -/
  | danglingConnection (source target : String)
  /-- An entry of a listing is not what an entry has to be. -/
  | malformedEntry (problems : List Schema.Problem)
  /-- An entry of a listing has no name, and its path is not a text to take one from. -/
  | namelessEntry
  /-- An address or a body is of no use, as its message tells, to what talks to the host. -/
  | unusable (message : String)
  /-- Directories, or the arrays and objects of a body, are nested more deeply than the machine
  follows them. -/
  | nestedTooDeeply
  deriving DecidableEq

namespace Failure

/-- A request was not even attempted because its address makes no sense. -/
@[match_pattern]
abbrev unusableAddress (message : String) : Failure := unusable message

/-- A body is not written in the charset that its headers name. -/
abbrev unreadableBody (message : String) : Failure := unusable message

/-- What is said of a repository that is not there. -/
def notFoundMessage : String :=
  "Repository not found. Please check the URL and ensure the repository is public."

/-- The repository is not there. -/
def notFound : Failure := repositoryNotFound notFoundMessage

/-- What a user is told. -/
def message : Failure → String
  | invalidReference text =>
      "Invalid GitHub URL: " ++ Text.quoteOption text ++
        ". Please provide a URL like https://github.com/owner/repo"
  | repositoryNotFound message => message
  | rateLimited reset =>
      "GitHub API rate limit exceeded. Resets at " ++
        String.ofList (Text.trim (reset.clockText ++ ' ' :: reset.zoneName))
  | hostError status detail =>
      (match status with
        | none => "GitHub API unreachable"
        | some n => "GitHub API error: " ++ String.ofList (Text.intText n)) ++
        if detail.isEmpty then "" else ": " ++ detail
  | emptyResult repository =>
      "No page or component files found in " ++ repository ++
        ". Try a repository with a src/, app/ or pages/ directory."
  | cancelled => "Analysis cancelled before completion"
  | invalidSettings _ => "Invalid flowscope settings"
  | other message => message
  | danglingConnection source target =>
      "Connection from " ++ source ++ " targets unknown node " ++ target
  | malformedEntry _ => "Malformed directory listing"
  | namelessEntry => "Directory entry without a name"
  | unusable message => message
  | nestedTooDeeply => "Nested too deeply"

/-- Whether a run is expected to be able to end in the failure; the others are defects of the
host's data or of the library. -/
def isReported : Failure → Bool
  | invalidReference _ | repositoryNotFound _ | rateLimited _ | hostError _ _ => true
  | emptyResult _ | cancelled | invalidSettings _ | other _ => true
  | danglingConnection _ _ | malformedEntry _ | namelessEntry | unusable _ => false
  | nestedTooDeeply => false

/-- Whether demonstration data may stand in for the failure. -/
def isHostFailure : Failure → Bool
  | repositoryNotFound _ | rateLimited _ | hostError _ _ => true
  | _ => false

/-- The status with which a web service answers. -/
def httpStatus : Failure → Nat
  | invalidReference _ => 400
  | repositoryNotFound _ => 404
  | rateLimited _ => 429
  | emptyResult _ => 422
  | cancelled => 503
  | hostError _ _ => 502
  | _ => 500

/-- What a web service says besides the status. -/
def httpDetail (f : Failure) : Json :=
  match f with
  | rateLimited reset =>
      .object [("message", .string f.message), ("reset_time", .string reset.isoText)]
  | f => .string f.message

theorem isReported_of_isHostFailure {f : Failure} (h : f.isHostFailure = true) :
    f.isReported = true := by
  cases f <;> simp_all [isHostFailure, isReported]

end Failure

end NavGraph
