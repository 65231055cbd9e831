import NavGraph.Text.Utf8

/-!
# Requests and answers

What passes between a run and the host of a repository.

## Main definitions

* `Request` - an address and the branch that is asked for
* `Response`, `Answer` - what comes back, if anything does
* `Host` - a host: its answer may depend on everything that was asked before

## Design notes

A host is **any** function from the requests so far and the present one to an answer.  It may
change its mind, fail for a while, or answer the same request differently each time.

What can be made of a body is not up to the program: a charset may fail to read it, and the stack
may be too small for the values that are nested in it.  Both are **part of the response**, so that
what is said of any host is said of any charset and of any machine.
-/

namespace NavGraph

/-- A request for what is at an address, perhaps on a branch. -/
structure Request where
  url : String
  branch : Option String
  deriving DecidableEq, Repr

/-- The request as one text. -/
def Request.key (r : Request) : String :=
  match r.branch with
  | none => r.url
  | some branch => r.url ++ "?ref=" ++ branch

/-- How deeply arrays and objects may be nested in a body where nothing else is said. -/
def bracketLimit : Nat := 990

/-- A response: status, headers in order, and the bytes of the body with what can be made of
them. -/
structure Response where
  status : Nat
  headers : List (String × String)
  body : List UInt8
  /-- The text of the body in the charset that the headers name, or what is wrong with it; UTF-8
  where nothing else is said. -/
  text : Except String String := .ok (Text.decodeLossy body)
  /-- How deeply the machine can follow nested arrays and objects of the body. -/
  nesting : Nat := bracketLimit

namespace Response

/-- A text with its ASCII letters in lower case. -/
def headerKey (name : String) : List Char := name.toList.map Char.toLower

/-- The value of a header, named in any letter case; a header that is there several times has its
values joined. -/
def header? (r : Response) (name : String) : Option String :=
  match r.headers.filter fun h => headerKey h.1 == headerKey name with
  | [] => none
  | found => some (", ".intercalate (found.map (·.2)))

/-- Whether the status says that the request succeeded. -/
def isSuccess (r : Response) : Bool := 200 ≤ r.status && r.status < 300

/-- Whether the host refuses to answer because it was asked too often. -/
def isRateLimited (r : Response) : Bool :=
  r.status == 429 || (r.status == 403 && r.header? "X-RateLimit-Remaining" == some "0")

end Response

/-- What comes back for a request. -/
inductive Answer where
  /-- A response. -/
  | response (r : Response)
  /-- No response; the reason tells why. -/
  | unreachable (reason : String)
  /-- The address makes no sense, so nothing was sent. -/
  | unusableAddress (message : String)

/-- A host: the answer to a request, given the requests before it, the oldest first. -/
abbrev Host := List Request → Request → Answer

end NavGraph
