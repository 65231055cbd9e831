import NavGraph.Model.Node
import NavGraph.Source.Path
import NavGraph.Text.LetterCase

/-!
# Kinds of declarations

A declaration is classified by words in its name, by the directories it lies in, and by what its
file uses.

## Main definitions

* `classify` - the kind of a declaration
-/

namespace NavGraph.Source

/-- Whether a text has one of several words in it. -/
def mentions (text : List Char) (words : List String) : Bool :=
  words.any fun w => Text.contains w.toList text

/-- Directories that hold pages. -/
def pageDirectories : List String := ["pages", "routes", "app", "screens", "views"]

/-- A call that asks a router for something. -/
def routerHook : Pattern :=
  .sequence [.wordEdge, .literal "use",
    .words ["Navigate", "Router", "Location", "Params", "History", "SearchParams"], .blanks,
    .single '(']

/-- A place that sets the title of a page. -/
def pageTitle : Pattern :=
  .anyOf [.literal "document.title", .literal "<title>", .literal "<Helmet", .literal "<Head>",
    .sequence [.wordEdge, .literal "useTitle", .blanks, .single '('],
    .sequence [.wordEdge, .literal "export", .someBlanks, .literal "const", .someBlanks,
      .literal "metadata", .wordEdge]]

/-- Whether a declaration that has no more specific role is a page. -/
def looksLikePage (loweredName : List Char) (path text : String) : Bool :=
  (directorySegments path).any pageDirectories.contains ||
    mentions loweredName ["page", "screen", "view"] ||
    (routerHook.occursIn text.toList && pageTitle.occursIn text.toList)

/-- The kind of a declaration; the most specific role is looked for first. -/
def classify (name path text : String) : NodeKind :=
  let lowered := Text.lower name.toList
  if mentions lowered ["layout", "wrapper"] then .layout
  else if mentions lowered ["modal", "dialog"] then .modal
  else if mentions lowered ["redirect"] then .redirect
  else if looksLikePage lowered path text then .page
  else .component

end NavGraph.Source
