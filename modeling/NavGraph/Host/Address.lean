import NavGraph.Failure
import NavGraph.Model.Repository
import NavGraph.Pattern.Search

/-!
# Repository addresses

The address of a repository, as it is copied from a browser, names an owner, a repository and
perhaps a branch.

## Main definitions

* `addressPattern` - the form of an address
* `Repository.ofAddress` - the repository that an address names
-/

namespace NavGraph

/-- The branch of an address that names none. -/
def defaultBranch : String := "main"

/-- The branch that is tried when the default one is not there. -/
def fallbackBranch : String := "master"

/-- Characters of one segment of an address. -/
def isSegmentChar (c : Char) : Bool := c != '/' && !Text.isBlank c

/-- The form of an address: the host in any letter case, owner and name, and behind them nothing,
a branch, or any path.  Slot 1 holds the owner, slot 2 the name and slot 3 the branch. -/
def addressPattern : Pattern :=
  .sequence [
    .textStart,
    .optional (.sequence [.anyCase "http", .optional (.anyCase "s"), .literal "://"]),
    .optional (.anyCase "www."),
    .anyCase "github.com/",
    .capture 1 (.oneOrMore isSegmentChar),
    .single '/',
    .capture 2 (.oneOrMore isSegmentChar),
    .optional (.sequence [.anyCase "/tree/", .capture 3 (.oneOrMore isSegmentChar)]),
    .optional (.seq (.single '/') (.many (· != '\n'))),
    .textEnd]

/-- An address without blanks around it and slashes behind it. -/
def cleanAddress (address : Option String) : String :=
  String.ofList (Text.trimEndWhile (· == '/') (Text.trim (address.getD "").toList))

/-- A name without the ending that version control adds to it. -/
def dropGitEnding (name : String) : String :=
  if ".git".toList.isSuffixOf name.toList then
    String.ofList (name.toList.take (name.toList.length - 4))
  else name

/-- The repository that an address names; an absent address names none. -/
def Repository.ofAddress (address : Option String) : Except Failure Repository :=
  let clean := cleanAddress address
  match addressPattern.at? (.start clean.toList) with
  | none => .error (.invalidReference address)
  | some m =>
      let name := dropGitEnding (m.text 2)
      if name.isEmpty then .error (.invalidReference address)
      else .ok ⟨clean, m.text 1, name, (m.text? 3).getD defaultBranch⟩

end NavGraph
