import NavGraph.Model.Shape
import NavGraph.Proofs.Model.Document

/-!
# What written documents hold

A table says for each shape which fields its documents have and what these hold.  Whatever a shape
reads, however leniently, it writes back as the table says, down to the documents inside of
documents, and what it writes it reads back.

## Main definitions

* `Shape.Model`, `Shape.read`, `Shape.write` - the models of a shape, their reader and written form
* `Shape.fields` - the table
* `Content.Holds` - a value is what the table asks for

## Main statements

* `Shape.holds_write` - written documents hold what the table says
* `Shape.read_write` - they are read back
* `Shape.complete_complete` - completing a document twice completes it once

## Design notes

Readers are lenient and the table is strict, so a document may be read that does not hold what the
table says.  Integers are the only values that a text can be too long to be read for, so what is
asked of them is a parameter.
-/

namespace NavGraph

open Schema

namespace Shape

/-- The models of a shape. -/
def Model : Shape → Type
  | repository => Repository
  | entry => Entry
  | connection => Connection
  | metadata => Metadata
  | node => Node
  | routeEntry => RouteEntry
  | journey => Journey
  | analysis => Analysis

/-- Read a model of a shape. -/
def read : (s : Shape) → Json → Reading s.Model
  | repository => Repository.ofJson
  | entry => Entry.ofJson
  | connection => Connection.ofJson
  | metadata => Metadata.ofJson
  | node => Node.ofJson
  | routeEntry => RouteEntry.ofJson
  | journey => Journey.ofJson
  | analysis => Analysis.ofJson

/-- The written form of a model. -/
def write : (s : Shape) → s.Model → Json
  | repository => Repository.toJson
  | entry => Entry.toJson
  | connection => Connection.toJson
  | metadata => Metadata.toJson
  | node => Node.toJson
  | routeEntry => RouteEntry.toJson
  | journey => Journey.toJson
  | analysis => Analysis.toJson

theorem complete_eq (s : Shape) (v : Json) : s.complete v = (s.read v).map s.write := by
  cases s <;> rfl

/-- **Models are read back.** -/
theorem read_write (s : Shape) (m : s.Model) : s.read (s.write m) = .ok m := by
  cases s with
  | repository => exact Repository.ofJson_toJson m
  | entry => exact Entry.ofJson_toJson m
  | connection => exact Connection.ofJson_toJson m
  | metadata => exact Metadata.ofJson_toJson m
  | node => exact Node.ofJson_toJson m
  | routeEntry => exact RouteEntry.ofJson_toJson m
  | journey => exact Journey.ofJson_toJson m
  | analysis => exact Analysis.ofJson_toJson m

theorem complete_write (s : Shape) (m : s.Model) : s.complete (s.write m) = .ok (s.write m) := by
  rw [complete_eq, read_write]
  rfl

/-- **Completing a document twice completes it once.** -/
theorem complete_complete {s : Shape} {v w : Json} (h : s.complete v = .ok w) :
    s.complete w = .ok w := by
  rw [complete_eq] at h
  obtain ⟨m, -, rfl⟩ := Reading.map_eq_ok_iff.1 h
  exact s.complete_write m

end Shape

/-! ### Fields and what they hold -/

/-- What a field of a document holds. -/
inductive Content where
  | text
  | textOrNull
  | flag
  | count
  | time
  | oneOf (names : List String)
  | texts
  | textsOrNull
  | document (s : Shape)
  | documents (s : Shape)

/-- The fields of the documents of a shape, in the order in which they are written. -/
def Shape.fields : Shape → List (String × Content)
  | repository =>
      [("url", .text), ("owner", .text), ("name", .text), ("branch", .text)]
  | entry =>
      [("name", .text), ("path", .text), ("kind", .oneOf ["file", "directory"]),
        ("content_location", .textOrNull)]
  | connection =>
      [("target_node_id", .text),
        ("kind", .oneOf ["navigation", "redirect", "modal", "conditional"]),
        ("trigger_description", .text), ("condition", .textOrNull)]
  | metadata =>
      [("title", .text), ("description", .text), ("has_auth", .flag), ("has_parameters", .flag),
        ("is_protected", .flag), ("complexity", .oneOf ["low", "medium", "high"]),
        ("user_actions", .texts), ("entry_points", .texts)]
  | node =>
      [("id", .text), ("display_name", .text), ("route_path", .text), ("source_path", .text),
        ("kind", .oneOf ["page", "layout", "modal", "redirect", "component"]),
        ("connections", .documents connection), ("metadata", .document metadata)]
  | routeEntry =>
      [("path", .text), ("component_name", .text), ("source_path", .text),
        ("guards", .textsOrNull), ("params", .textsOrNull)]
  | journey =>
      [("id", .text), ("name", .text), ("description", .text), ("steps", .documents node),
        ("start_node_id", .text), ("end_node_id", .text),
        ("user_type", .oneOf ["guest", "authenticated", "admin"])]
  | analysis =>
      [("repo_url", .text), ("repo_name", .text), ("nodes", .documents node),
        ("routes", .documents routeEntry), ("journeys", .documents journey),
        ("total_files_seen", .count), ("files_successfully_analyzed", .count),
        ("timestamp", .time)]

theorem Shape.nodup_fields (s : Shape) : (s.fields.map Prod.fst).Nodup := by
  cases s <;> decide

namespace Content

/-- A value is what a field **holds**, where something may be asked of integers. -/
inductive Holds (p : Int → Prop) : Content → Json → Prop where
  | text (s : String) : Holds p .text (.string s)
  | textOrNull (s? : Option String) : Holds p .textOrNull (.ofOption s?)
  | flag (b : Bool) : Holds p .flag (.bool b)
  | count {n : Int} (h : p n) : Holds p .count (.int n)
  | time (t : Time.Timestamp) : Holds p .time (.string t.fieldText)
  | oneOf {names : List String} {s : String} (h : s ∈ names) : Holds p (.oneOf names) (.string s)
  | texts (texts : List String) : Holds p .texts (.ofStrings texts)
  | textsOrNull (texts? : Option (List String)) :
      Holds p .textsOrNull (RouteEntry.listOrNull texts?)
  | document {s : Shape} {fields : Fields}
      (names_eq : fields.map Prod.fst = s.fields.map Prod.fst)
      (holds : ∀ pair ∈ s.fields.zip fields, Holds p pair.1.2 pair.2.2) :
      Holds p (.document s) (.object fields)
  | documents {s : Shape} {items : List Json} (holds : ∀ v ∈ items, Holds p (.document s) v) :
      Holds p (.documents s) (.array items)

attribute [simp] Holds.text Holds.textOrNull Holds.flag Holds.count Holds.time Holds.oneOf
  Holds.texts Holds.textsOrNull

variable {p : Int → Prop}

theorem holds_map {α : Type} {s : Shape} {write : α → Json}
    (h : ∀ a, Holds p (.document s) (write a)) (as : List α) :
    Holds p (.documents s) (.array (as.map write)) :=
  .documents (List.forall_mem_map.2 fun a _ => h a)

theorem holds_connection (c : Connection) : Holds p (.document .connection) c.toJson := by
  have hkind : Holds p (.oneOf ["navigation", "redirect", "modal", "conditional"])
      (.string c.kind.name) :=
    .oneOf (by cases c.kind <;> decide)
  exact .document rfl (by simp [Shape.fields, hkind])

theorem holds_metadata (m : Metadata) : Holds p (.document .metadata) m.toJson := by
  have hcomplexity : Holds p (.oneOf ["low", "medium", "high"]) (.string m.complexity.name) :=
    .oneOf (by cases m.complexity <;> decide)
  exact .document rfl (by simp [Shape.fields, hcomplexity])

theorem holds_node (n : Node) : Holds p (.document .node) n.toJson := by
  have hkind : Holds p (.oneOf ["page", "layout", "modal", "redirect", "component"])
      (.string n.kind.name) :=
    .oneOf (by cases n.kind <;> decide)
  have hconnections := holds_map (p := p) holds_connection n.connections
  exact .document rfl (by simp [Shape.fields, hkind, hconnections, holds_metadata])

theorem holds_routeEntry (r : RouteEntry) : Holds p (.document .routeEntry) r.toJson :=
  .document rfl (by simp [Shape.fields])

theorem holds_journey (j : Journey) : Holds p (.document .journey) j.toJson := by
  have haudience : Holds p (.oneOf ["guest", "authenticated", "admin"])
      (.string j.audience.name) :=
    .oneOf (by cases j.audience <;> decide)
  have hsteps := holds_map (p := p) holds_node j.steps
  exact .document rfl (by simp [Shape.fields, haudience, hsteps])

theorem holds_analysis {a : Analysis} (htotal : p a.totalFiles) (hanalyzed : p a.analyzedFiles) :
    Holds p (.document .analysis) a.toJson := by
  have hnodes := holds_map (p := p) holds_node a.nodes
  have hroutes := holds_map (p := p) holds_routeEntry a.routes
  have hjourneys := holds_map (p := p) holds_journey a.journeys
  exact .document rfl
    (by simp [Shape.fields, hnodes, hroutes, hjourneys, htotal, hanalyzed])

end Content

end NavGraph
