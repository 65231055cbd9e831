import NavGraph.Pattern.Search
import NavGraph.Text.Trim

/-!
# Paths of source files

Which files of a repository are worth reading, judged by their paths alone.

## Main definitions

* `isCandidate` - script and markup files that are no tests, settings or declarations
* `directorySegments` - the directories on a path, in lower case
-/

namespace NavGraph.Source

/-- The ending of the last segment of a path from its last point on.  Points that the segment
starts with do not begin an ending. -/
def extension (path : List Char) : List Char :=
  let name := (path.reverse.takeWhile (· != '/')).reverse
  let body := name.dropWhile (· == '.')
  if body.contains '.' then '.' :: (body.reverse.takeWhile (· != '.')).reverse else []

/-- Endings of script and markup files. -/
def candidateExtensions : List String := [".js", ".jsx", ".ts", ".tsx", ".mjs"]

/-- The start of the text or a slash. -/
def segmentStart : Pattern := .alt .textStart (.single '/')

/-- Endings that a script may have: a letter for the dialect or none, one of `js`, `ts`, and
perhaps an `x`, in any letter case. -/
def scriptEnding : Pattern :=
  .sequence [.optional (.oneOfAnyCase "cm"), .oneOfAnyCase "jt", .anyCase "s",
    .optional (.anyCase "x"), .textEnd]

/-- Tests and stories beside the file that they are about. -/
def testFile : Pattern :=
  .sequence [.single '.', .wordsAnyCase ["test", "spec", "stories", "story"], .single '.',
    scriptEnding]

/-- Files below a directory of tests. -/
def testDirectory : Pattern :=
  .sequence [segmentStart,
    .anyOf [.anyCase "__tests__", .anyCase "__mocks__",
      .seq (.anyCase "test") (.optional (.anyCase "s")), .anyCase "e2e", .anyCase "cypress"],
    .single '/']

/-- Settings of a tool. -/
def configFile : Pattern :=
  .sequence [.anyCase ".config.", .optional (.oneOfAnyCase "cm"), .oneOfAnyCase "jt",
    .anyCase "s", .textEnd]

/-- Preparation of a test run. -/
def setupFile : Pattern :=
  .sequence [segmentStart, .words ["setupTests", "jest.setup", "vite-env"], .single '.',
    .oneOf "jt", .single 's', .optional (.single 'x'), .textEnd]

/-- Type declarations. -/
def declarationFile : Pattern := .seq (.literal ".d.ts") .textEnd

/-- Paths of files that are not analyzed. -/
def excludedPaths : List Pattern :=
  [testFile, testDirectory, configFile, setupFile, declarationFile]

/-- Whether a file is worth reading. -/
def isCandidate (path : String) : Bool :=
  let chars := path.toList
  candidateExtensions.contains (String.ofList (Text.lower (extension chars))) &&
    !excludedPaths.any (·.occursIn chars)

/-- Directories on the path to a file, in lower case. -/
def directorySegments (path : String) : List String :=
  ((Text.split '/' path.toList).dropLast.filter (!·.isEmpty)).map
    fun part => String.ofList (Text.lower part)

end NavGraph.Source
