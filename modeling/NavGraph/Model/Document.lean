import NavGraph.Model.Analysis
import NavGraph.Model.Repository
import NavGraph.Schema.Reading

/-!
# Models as documents

Each model has a written form as a JSON object, which carries every field, and a reader of it,
which supplies defaults and converts leniently.

## Main definitions

* `toJson` and `ofJson` of `Repository`, `Entry`, `Connection`, `Metadata`, `Node`, `RouteEntry`,
  `Journey` and `Analysis`
-/

namespace NavGraph

open Schema

namespace Repository

/-- The written form. -/
def toJson (r : Repository) : Json :=
  .object [("url", .string r.url), ("owner", .string r.owner), ("name", .string r.name),
    ("branch", .string r.branch)]

/-- Read the written form; the branch is `main` unless given. -/
def ofJson : Json → Reading Repository :=
  object fun fs =>
    (((required "url" text fs).map mk).and (required "owner" text fs)
      |>.and (required "name" text fs)
      |>.and (withDefault "branch" "main" text fs))

end Repository

namespace Entry

/-- The written form. -/
def toJson (e : Entry) : Json :=
  .object [("name", .string e.name), ("path", .string e.path), ("kind", .string e.kind.name),
    ("content_location", .ofOption e.location)]

/-- Read the written form. -/
def ofJson : Json → Reading Entry :=
  object fun fs =>
    (((required "name" text fs).map mk).and (required "path" text fs)
      |>.and (required "kind" (choice EntryKind.ofName?) fs)
      |>.and (withDefault "content_location" none (orNull text) fs))

end Entry

namespace Connection

/-- The written form. -/
def toJson (c : Connection) : Json :=
  .object [("target_node_id", .string c.target), ("kind", .string c.kind.name),
    ("trigger_description", .string c.trigger), ("condition", .ofOption c.condition)]

/-- Read the written form. -/
def ofJson : Json → Reading Connection :=
  object fun fs =>
    (((required "target_node_id" text fs).map mk)
      |>.and (required "kind" (choice ConnectionKind.ofName?) fs)
      |>.and (required "trigger_description" text fs)
      |>.and (withDefault "condition" none (orNull text) fs))

end Connection

namespace Metadata

/-- The written form. -/
def toJson (m : Metadata) : Json :=
  .object [("title", .string m.title), ("description", .string m.description),
    ("has_auth", .bool m.hasAuth), ("has_parameters", .bool m.hasParameters),
    ("is_protected", .bool m.isProtected), ("complexity", .string m.complexity.name),
    ("user_actions", .ofStrings m.userActions), ("entry_points", .ofStrings m.entryPoints)]

/-- Read the written form. -/
def ofJson : Json → Reading Metadata :=
  object fun fs =>
    (((required "title" text fs).map mk).and (required "description" text fs)
      |>.and (withDefault "has_auth" false boolean fs)
      |>.and (withDefault "has_parameters" false boolean fs)
      |>.and (withDefault "is_protected" false boolean fs)
      |>.and (withDefault "complexity" .low (choice Complexity.ofName?) fs)
      |>.and (withDefault "user_actions" [] (listOf text) fs)
      |>.and (withDefault "entry_points" [] (listOf text) fs))

end Metadata

namespace Node

/-- The written form. -/
def toJson (n : Node) : Json :=
  .object [("id", .string n.id), ("display_name", .string n.displayName),
    ("route_path", .string n.routePath), ("source_path", .string n.sourcePath),
    ("kind", .string n.kind.name), ("connections", .array (n.connections.map Connection.toJson)),
    ("metadata", n.metadata.toJson)]

/-- Read the written form. -/
def ofJson : Json → Reading Node :=
  object fun fs =>
    (((required "id" text fs).map mk).and (required "display_name" text fs)
      |>.and (required "route_path" text fs)
      |>.and (required "source_path" text fs)
      |>.and (required "kind" (choice NodeKind.ofName?) fs)
      |>.and (withDefault "connections" [] (listOf Connection.ofJson) fs)
      |>.and (required "metadata" Metadata.ofJson fs))

end Node

namespace RouteEntry

/-- A list of texts or null. -/
def listOrNull : Option (List String) → Json
  | none => .null
  | some texts => .ofStrings texts

/-- The written form. -/
def toJson (r : RouteEntry) : Json :=
  .object [("path", .string r.path), ("component_name", .string r.componentName),
    ("source_path", .string r.sourcePath), ("guards", listOrNull r.guards),
    ("params", listOrNull r.params)]

/-- Read the written form. -/
def ofJson : Json → Reading RouteEntry :=
  object fun fs =>
    (((required "path" text fs).map mk).and (required "component_name" text fs)
      |>.and (required "source_path" text fs)
      |>.and (withDefault "guards" none (orNull (listOf text)) fs)
      |>.and (withDefault "params" none (orNull (listOf text)) fs))

end RouteEntry

namespace Journey

/-- The written form. -/
def toJson (j : Journey) : Json :=
  .object [("id", .string j.id), ("name", .string j.name), ("description", .string j.description),
    ("steps", .array (j.steps.map Node.toJson)), ("start_node_id", .string j.startId),
    ("end_node_id", .string j.endId), ("user_type", .string j.audience.name)]

/-- Read the written form. -/
def ofJson : Json → Reading Journey :=
  object fun fs =>
    (((required "id" text fs).map mk).and (required "name" text fs)
      |>.and (required "description" text fs)
      |>.and (withDefault "steps" [] (listOf Node.ofJson) fs)
      |>.and (required "start_node_id" text fs)
      |>.and (required "end_node_id" text fs)
      |>.and (required "user_type" (choice Audience.ofName?) fs))

end Journey

namespace Analysis

/-- The written form. -/
def toJson (a : Analysis) : Json :=
  .object [("repo_url", .string a.repoUrl), ("repo_name", .string a.repoName),
    ("nodes", .array (a.nodes.map Node.toJson)),
    ("routes", .array (a.routes.map RouteEntry.toJson)),
    ("journeys", .array (a.journeys.map Journey.toJson)), ("total_files_seen", .int a.totalFiles),
    ("files_successfully_analyzed", .int a.analyzedFiles),
    ("timestamp", .string a.timestamp.fieldText)]

/-- Read the written form. -/
def ofJson : Json → Reading Analysis :=
  object fun fs =>
    (((required "repo_url" text fs).map mk).and (required "repo_name" text fs)
      |>.and (required "nodes" (listOf Node.ofJson) fs)
      |>.and (required "routes" (listOf RouteEntry.ofJson) fs)
      |>.and (required "journeys" (listOf Journey.ofJson) fs)
      |>.and (required "total_files_seen" integer fs)
      |>.and (required "files_successfully_analyzed" integer fs)
      |>.and (required "timestamp" time fs))

end Analysis

end NavGraph
