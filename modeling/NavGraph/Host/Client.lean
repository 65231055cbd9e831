import NavGraph.Host.Body
import NavGraph.Host.Run
import NavGraph.Model.Document
import NavGraph.Settings

/-!
# The client

Requests for a repository, its directories and its files, with a bounded number of attempts.

## Main definitions

* `Client` - a host, how to talk to it, and when to stop
* `judge` - what an answer means
* `Client.request` - ask until an answer is final or the attempts are used up
* `Client.probe`, `Client.list`, `Client.read` - the three things to ask for

## Design notes

Too many requests and what is not there are **final**: asking again would not help.  Any other bad
answer is worth another attempt.  A file that the host does not give out counts as empty; a
directory that cannot be listed ends the run, as does a body that the machine cannot read.
-/

namespace NavGraph

/-- A host, how to talk to it, when to stop, and the present time. -/
structure Client where
  host : Host
  settings : Settings
  cancelled : Signal
  now : Time.Timestamp

/-- The part of the program that notes down what requests do. -/
def fetchLogger : String := "flowscope.fetch"

/-- The time that a header with seconds since 1970 tells. -/
def headerTime? (value : String) : Option Time.Timestamp :=
  (Number.headerInt? value).bind Time.Timestamp.ofEpochSeconds?

/-- When a host answers again, by its header; the present time if there is none to read. -/
def resetTime (now : Time.Timestamp) (header : Option String) : Time.Timestamp :=
  match header with
  | none => now
  | some value => (headerTime? value).getD now

/-- Note down a header that tells no time.  An empty one is as good as none. -/
def noteUnreadableTime (header : Option String) : Run Unit :=
  match header with
  | none => pure ()
  | some value =>
      if value.isEmpty || (headerTime? value).isSome then pure ()
      else
        Run.log .debug fetchLogger
          ("Unparseable rate limit reset header: " ++ Text.quoteOption (some value))

/-- What an answer means. -/
inductive Verdict where
  /-- The response that was asked for. -/
  | success (r : Response)
  /-- A failure that another attempt would not mend. -/
  | final (f : Failure)
  /-- A failure that another attempt may mend. -/
  | retry (f : Failure)

/-- What an answer means. -/
def judge (now : Time.Timestamp) : Answer → Verdict
  | .response r =>
      if r.isRateLimited then .final (.rateLimited (resetTime now (r.header? "X-RateLimit-Reset")))
      else if r.status = 404 then .final .notFound
      else if r.isSuccess then .success r
      else .retry (.hostError (some (Int.ofNat r.status)) "")
  | .unreachable reason => .retry (.hostError none reason)
  | .unusableAddress message => .final (.unusableAddress message)

/-- The reset header of an answer that refuses for having been asked too often. -/
def limitHeader? : Answer → Option String
  | .response r => if r.isRateLimited then r.header? "X-RateLimit-Reset" else none
  | _ => none

namespace Client

/-- Headers that go with each request. -/
def headers (c : Client) : List (String × String) :=
  [("Accept", c.settings.acceptHeader), ("User-Agent", c.settings.userAgent)] ++
    match c.settings.token with
    | none => []
    | some token => if token.isEmpty then [] else [("Authorization", "Bearer " ++ token)]

/-- The address of a repository. -/
def repositoryUrl (c : Client) (repo : Repository) : String :=
  String.ofList (Text.trimEndWhile (· == '/') c.settings.apiBaseUrl.toList) ++ "/repos/" ++
    repo.owner ++ "/" ++ repo.name

/-- The address of a directory of a repository. -/
def directoryUrl (c : Client) (repo : Repository) (path : String) : String :=
  c.repositoryUrl repo ++ "/contents/" ++
    String.ofList (Text.trimWhile (· == '/') path.toList)

/-- The wait after an attempt. -/
def delay (c : Client) (attempt : Nat) : Float :=
  c.settings.retryBaseDelay * Float.ofNat attempt

/-- Note down a failed attempt that is followed by another. -/
def noteRetry (c : Client) (url : String) (attempt retries : Nat) (f : Failure) : Run Unit :=
  Run.log .warning fetchLogger
    (f.message ++ "; retrying " ++ url ++ " in " ++ Number.oneDecimalText (c.delay attempt) ++
      "s (" ++ String.ofList (Text.digitsOfNat attempt) ++ "/" ++
      String.ofList (Text.digitsOfNat retries) ++ ")")

/-- Ask, with some retries left after this attempt; attempts count from 1. -/
def attempt (c : Client) (request : Request) (retries : Nat) : Nat → Nat → Run Response
  | n, left => do
      Run.requireActive c.cancelled
      let answer ← Run.ask c.host request
      noteUnreadableTime (limitHeader? answer)
      match judge c.now answer with
      | .success r => return r
      | .final f => throw f
      | .retry f =>
          match left with
          | 0 => throw f
          | left + 1 => do
              c.noteRetry request.url n retries f
              Run.sleep (c.delay n)
              attempt c request retries (n + 1) left

/-- Ask until an answer is final or the attempts are used up.  A negative number of retries leaves
no attempt at all. -/
def request (c : Client) (r : Request) : Run Response :=
  match c.settings.maxRetries with
  | .ofNat retries => c.attempt r retries 1 retries
  | .negSucc _ => throw (.hostError none "no request attempted")

/-- What is wrong with a body that has no JSON value. -/
def jsonFault (r : Response) : Failure :=
  if isNestedTooDeeply r then .nestedTooDeeply
  else .hostError (some (Int.ofNat r.status)) "invalid JSON body"

/-- The JSON value of a response, or what is wrong with its body. -/
def jsonOf (r : Response) : Except Failure Json :=
  match bodyJson? r with
  | some v => .ok v
  | none => .error (jsonFault r)

/-- The text of a response, or what is wrong with its body. -/
def textOf (r : Response) : Except Failure String :=
  match r.text with
  | .ok text => .ok text
  | .error message => .error (.unreadableBody message)

/-- Go on with the JSON value of a response. -/
def requireJson (r : Response) : Run Json := Run.ofExcept (jsonOf r)

/-- Ask for a repository; the answer is an object, or none. -/
def probe (c : Client) (repo : Repository) : Run (List (String × Json)) := do
  let v ← requireJson (← c.request ⟨c.repositoryUrl repo, none⟩)
  match v with
  | .object fields => return fields
  | _ => return []

/-- The part of a path behind its last slash. -/
def lastSegment (path : String) : String :=
  String.ofList ((Text.split '/' path.toList).getLast?.getD [])

/-- An entry of a listing from its fields.  An entry without a name takes it from its path. -/
def entryOfFields (path : Json) (fields : List (String × Json)) : Except Failure Entry :=
  let isDirectory := match fields.lookup "type" with
    | some (.string "dir") => true
    | _ => false
  let given := (fields.lookup "name").getD .null
  let name? : Option Json :=
    if given.isTruthy then some given
    else match path with
      | .string p => some (.string (lastSegment p))
      | _ => none
  match name? with
  | none => .error .namelessEntry
  | some name =>
      let location := if isDirectory then .null else (fields.lookup "download_url").getD .null
      let kind := if isDirectory then EntryKind.directory else .file
      match Entry.ofJson (.object [("name", name), ("path", path), ("kind", .string kind.name),
          ("content_location", location)]) with
      | .ok e => .ok e
      | .error problems => .error (.malformedEntry problems)

/-- Entries of a listing; what is no object or has no path is no entry. -/
def entriesOf : List Json → Except Failure (List Entry)
  | [] => .ok []
  | .object fields :: rest =>
      match fields.lookup "path" with
      | none => entriesOf rest
      | some path => do
          let e ← entryOfFields path fields
          return e :: (← entriesOf rest)
  | _ :: rest => entriesOf rest

/-- List one directory of a repository; what is no list has no entries. -/
def list (c : Client) (repo : Repository) (path : String) : Run (List Entry) := do
  let v ← requireJson (← c.request ⟨c.directoryUrl repo path, some repo.branch⟩)
  match v with
  | .array items => do
      let entries ← Run.ofExcept (entriesOf items)
      Run.log .debug fetchLogger
        ("Listed " ++ String.ofList (Text.digitsOfNat entries.length) ++ " entries under /" ++ path)
      return entries
  | _ => return []

/-- Read a file; one that the host does not give out counts as empty. -/
def read (c : Client) (location : String) : Run String :=
  tryCatch (do Run.ofExcept (textOf (← c.request ⟨location, none⟩))) fun f =>
    if f = .cancelled ∨ f.isReported = false then throw f
    else do
      Run.log .warning fetchLogger ("Could not read " ++ location ++ ": " ++ f.message)
      return ""

end Client

end NavGraph
