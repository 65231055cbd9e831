import NavGraph.Proofs.Host.Client

/-!
# Entries of a listing

Which items of a listing make an entry.  A host may list anything: what is no object or has no path
is passed over, and the rest is read as an entry, which asks for texts in the places of texts.

## Main definitions

* `Json.IsOrderly` - items that are passed over or make an entry

## Main statements

* `entryOfFields_ok_iff` - which fields make an entry
* `entriesOf_ok_iff` - a listing is understood exactly if all its items are orderly
-/

namespace NavGraph

open Schema

/-- Fields that make an entry under a path: the path is a text, so is the name if it counts as one
at all, and so is the place of the content of what is no directory, if there is any. -/
structure MakesEntry (path : Json) (fields : List (String × Json)) : Prop where
  path_text : ∃ p, path = .string p
  name_text : ((fields.lookup "name").getD .null).isTruthy = true →
    ∃ name, fields.lookup "name" = some (.string name)
  location_text : fields.lookup "type" ≠ some (.string "dir") →
    (fields.lookup "download_url").getD .null = .null ∨
      ∃ location, fields.lookup "download_url" = some (.string location)

/-- Items of a listing that are passed over or make an entry. -/
def Json.IsOrderly : Json → Prop
  | .object fields => ∀ path, fields.lookup "path" = some path → MakesEntry path fields
  | _ => True

/-- An entry is read from texts, with a kind of its own. -/
theorem ofJson_ok_iff {name path location : Json} {kind : EntryKind} :
    (∃ e, Entry.ofJson (.object [("name", name), ("path", path), ("kind", .string kind.name),
      ("content_location", location)]) = .ok e) ↔
      (∃ s, name = .string s) ∧ (∃ s, path = .string s) ∧ ∃ s?, location = .ofOption s? := by
  have hread : Entry.ofJson (.object [("name", name), ("path", path),
      ("kind", .string kind.name), ("content_location", location)]) =
        ((((Reading.within (.field "name") (text name)).map Entry.mk).and
          (Reading.within (.field "path") (text path))).and (.ok kind)).and
          (Reading.within (.field "content_location") (orNull text location)) := by
    cases kind <;> rfl
  simp only [hread, Reading.and_eq_ok_iff, Reading.map_eq_ok_iff, Reading.within_eq_ok_iff,
    text_eq_ok_iff, orNull_text_eq_ok_iff]
  constructor
  · rintro ⟨_, _, s?, ⟨_, _, ⟨_, p, ⟨s, rfl, -⟩, rfl, -⟩, -, -⟩, rfl, -⟩
    exact ⟨⟨s, rfl⟩, ⟨p, rfl⟩, s?, rfl⟩
  · rintro ⟨⟨s, rfl⟩, ⟨p, rfl⟩, s?, rfl⟩
    exact ⟨_, _, s?, ⟨_, kind, ⟨_, p, ⟨s, rfl, rfl⟩, rfl, rfl⟩, rfl, rfl⟩, rfl, rfl⟩

namespace Client

/-- Whether fields say that an entry is a directory. -/
def saysDirectory (fields : List (String × Json)) : Bool :=
  match fields.lookup "type" with
  | some (.string "dir") => true
  | _ => false

/-- What is read as the name of an entry, if there is something to read. -/
def nameSource? (path : Json) (fields : List (String × Json)) : Option Json :=
  if ((fields.lookup "name").getD .null).isTruthy then some ((fields.lookup "name").getD .null)
  else match path with
    | .string p => some (.string (lastSegment p))
    | _ => none

/-- What is read as the place of the content of an entry. -/
def locationSource (fields : List (String × Json)) : Json :=
  if saysDirectory fields then .null else (fields.lookup "download_url").getD .null

/-- What is read as an entry. -/
def entrySource (path : Json) (fields : List (String × Json)) (name : Json) : Json :=
  .object [("name", name), ("path", path),
    ("kind", .string (if saysDirectory fields then EntryKind.directory else .file).name),
    ("content_location", locationSource fields)]

theorem entryOfFields_eq (path : Json) (fields : List (String × Json)) :
    entryOfFields path fields =
      match nameSource? path fields with
      | none => .error .namelessEntry
      | some name =>
          match Entry.ofJson (entrySource path fields name) with
          | .ok e => .ok e
          | .error problems => .error (.malformedEntry problems) := rfl

/-- The value of a field is the value that is taken in its place, unless that is null. -/
theorem lookup_of_getD {fields : List (String × Json)} {key s : String}
    (h : (fields.lookup key).getD .null = .string s) : fields.lookup key = some (.string s) := by
  cases hfound : fields.lookup key with
  | none =>
    rw [hfound] at h
    cases h
  | some v =>
    rw [hfound] at h
    exact congrArg some h

theorem saysDirectory_iff {fields : List (String × Json)} :
    saysDirectory fields = true ↔ fields.lookup "type" = some (.string "dir") := by
  unfold saysDirectory
  split <;> simp_all

/-- Where the path is a text there is something to read as a name, and it is a text if what is given
as one is. -/
theorem nameSource?_text_iff {p : String} {fields : List (String × Json)} :
    (∃ s, nameSource? (.string p) fields = some (.string s)) ↔
      (((fields.lookup "name").getD .null).isTruthy = true →
        ∃ name, fields.lookup "name" = some (.string name)) := by
  unfold nameSource?
  by_cases hgiven : ((fields.lookup "name").getD .null).isTruthy = true
  · simp only [if_pos hgiven, Option.some.injEq]
    constructor
    · exact fun ⟨s, hs⟩ _ => ⟨s, lookup_of_getD hs⟩
    · intro h
      obtain ⟨name, hname⟩ := h hgiven
      exact ⟨name, by rw [hname]; rfl⟩
  · rw [if_neg hgiven]
    exact iff_of_true ⟨lastSegment p, rfl⟩ fun h => absurd h hgiven

theorem locationSource_iff {fields : List (String × Json)} :
    (∃ s?, locationSource fields = .ofOption s?) ↔
      (fields.lookup "type" ≠ some (.string "dir") →
        (fields.lookup "download_url").getD .null = .null ∨
          ∃ location, fields.lookup "download_url" = some (.string location)) := by
  rw [Ne, ← saysDirectory_iff]
  unfold locationSource
  by_cases hdirectory : saysDirectory fields = true
  · rw [if_pos hdirectory]
    exact iff_of_true ⟨none, rfl⟩ fun h => absurd hdirectory h
  · rw [if_neg hdirectory, forall_prop_of_true hdirectory]
    constructor
    · rintro ⟨_ | s, hs⟩
      · exact .inl hs
      · exact .inr ⟨s, lookup_of_getD hs⟩
    · rintro (hnull | ⟨s, hs⟩)
      · exact ⟨none, hnull⟩
      · exact ⟨some s, by rw [hs]; rfl⟩

/-- **Which fields make an entry.** -/
theorem entryOfFields_ok_iff {path : Json} {fields : List (String × Json)} :
    (∃ e, entryOfFields path fields = .ok e) ↔ MakesEntry path fields := by
  have hread : ∀ name, (∃ e, Entry.ofJson (entrySource path fields name) = .ok e) ↔
      (∃ s, name = .string s) ∧ (∃ s, path = .string s) ∧
        ∃ s?, locationSource fields = .ofOption s? := fun _ => ofJson_ok_iff
  rw [entryOfFields_eq]
  constructor
  · rintro ⟨e, h⟩
    split at h
    · cases h
    · rename_i name hname
      split at h
      · rename_i e' hentry
        obtain ⟨⟨s, rfl⟩, ⟨p, rfl⟩, hlocation⟩ := (hread name).1 ⟨e', hentry⟩
        exact ⟨⟨p, rfl⟩, nameSource?_text_iff.1 ⟨s, hname⟩, locationSource_iff.1 hlocation⟩
      · cases h
  · rintro ⟨⟨p, rfl⟩, hname, hlocation⟩
    obtain ⟨s, hs⟩ := nameSource?_text_iff.2 hname
    obtain ⟨e, he⟩ := (hread (.string s)).2 ⟨⟨s, rfl⟩, ⟨p, rfl⟩, locationSource_iff.2 hlocation⟩
    refine ⟨e, ?_⟩
    rw [hs]
    dsimp only
    rw [he]

/-- **A listing is understood exactly if all its items are orderly.** -/
theorem entriesOf_ok_iff {items : List Json} :
    (∃ entries, entriesOf items = .ok entries) ↔ ∀ item ∈ items, item.IsOrderly := by
  fun_induction entriesOf items with
  | case1 => exact iff_of_true ⟨[], rfl⟩ (List.forall_mem_nil _)
  | case2 fields rest hpath ih =>
    rw [List.forall_mem_cons, ih, and_iff_right]
    intro path h
    rw [hpath] at h
    cases h
  | case3 fields rest path hpath ih =>
    rw [List.forall_mem_cons, ← ih]
    have hitem : (Json.object fields).IsOrderly ↔ ∃ e, entryOfFields path fields = .ok e := by
      rw [entryOfFields_ok_iff]
      constructor
      · exact fun h => h path hpath
      · intro h path' hpath'
        rw [hpath] at hpath'
        cases hpath'
        exact h
    rw [hitem]
    cases entryOfFields path fields with
    | error f =>
      refine iff_of_false ?_ ?_
      · rintro ⟨entries, ⟨⟩⟩
      · rintro ⟨⟨e, ⟨⟩⟩, -⟩
    | ok e =>
      cases entriesOf rest with
      | error f =>
        refine iff_of_false ?_ ?_
        · rintro ⟨entries, ⟨⟩⟩
        · rintro ⟨-, entries, ⟨⟩⟩
      | ok entries => exact iff_of_true ⟨_, rfl⟩ ⟨⟨e, rfl⟩, entries, rfl⟩
  | case4 v rest hv ih =>
    rw [List.forall_mem_cons, ih, and_iff_right]
    cases v with
    | object fields => exact absurd rfl (hv fields)
    | _ => trivial

end Client

end NavGraph
