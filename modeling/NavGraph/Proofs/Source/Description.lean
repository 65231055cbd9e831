import NavGraph.Demo.Marker
import NavGraph.Proofs.Pattern.Capture
import NavGraph.Source.File

/-!
# Names and descriptions of declarations

The name of a declaration is a run of word characters, whatever text it was found in, and so is the
name under which it is shown.  A description begins with that name.

## Main definitions

* `IsName` - a run of word characters

## Main statements

* `isName_of_mem_declaredNames`, `isName_displayName` - names are such runs
* `not_marked_of_mem_analyzeFile` - no description of a declaration carries the mark of
  demonstration data
-/

namespace NavGraph

namespace Source

open Pattern

/-- A run of word characters: at least one, and no other. -/
structure IsName (text : List Char) : Prop where
  ne_nil : text ≠ []
  isWord : ∀ c ∈ text, Text.isWord c = true

/-- Both slots of a declaration are for names. -/
theorem remembers_declarationPattern : declarationPattern.Remembers IsName := by
  have hname (slot : Nat) : (capture slot (oneOrMore Text.isWord)).Remembers IsName :=
    remembers_capture_oneOrMore fun _ hne hword => ⟨hne, hword⟩
  simp [declarationPattern, functionHead, arrowHead, returnedMarkup, typeAnnotation,
    parameterList, typeParameters, someBlanks, blanks, hname]

theorem isName_of_mem_declaredNames {text name : String} (h : name ∈ declaredNames text) :
    IsName name.toList := by
  obtain ⟨m, hm, hname⟩ := List.mem_filterMap.1 h
  split at hname
  · rename_i held hheld
    cases hname
    exact text?_of_mem_findAll remembers_declarationPattern hm hheld
  · exact text?_of_mem_findAll remembers_declarationPattern hm hname

theorem isName_of_mem_declarations {text : String} {d : Declaration} (h : d ∈ declarations text) :
    IsName d.name.toList := by
  obtain ⟨i, hi, rfl⟩ := List.mem_mapIdx.1 h
  exact isName_of_mem_declaredNames (List.getElem_mem hi)

/-- A name stays one when it is shown without a word for a page at its end. -/
theorem isName_displayName {name : String} (h : IsName name.toList) :
    IsName (displayName name).toList := by
  unfold displayName
  split
  · exact h
  · rename_i hleft
    refine ⟨fun hnil => hleft ?_, fun c hc => ?_⟩
    · rw [String.isEmpty_iff, ← String.toList_eq_nil_iff]
      exact hnil
    · rw [stripNameSuffix, String.toList_ofList] at hc
      obtain hc | hc := mem_replaceAll hc
      · exact h.isWord c hc
      · cases hc

theorem displayName_prefix_describe (name text : String) :
    (displayName name).toList <+: (describe name text).toList := by
  unfold describe
  simp only [String.toList_append, List.append_assoc]
  exact List.prefix_append _ _

/-- The mark begins with a sign that is no word character. -/
theorem not_marked_of_isName {name text : List Char} (h : IsName name) (hname : name <+: text) :
    ¬ demoMarker.toList <+: text := by
  intro hmarker
  have hsign : demoMarker.toList.head (by decide) = name.head h.ne_nil := by
    rw [List.IsPrefix.head hmarker, List.IsPrefix.head hname]
  have hword := h.isWord _ (List.head_mem h.ne_nil)
  rw [← hsign] at hword
  have hother : Text.isWord (demoMarker.toList.head (by decide)) = false := by decide +kernel
  rw [hother] at hword
  cases hword

/-- **No text makes the analysis of a file describe a declaration like demonstration data.** -/
theorem not_marked_of_mem_analyzeFile {path text : String} {n : Node}
    (h : n ∈ (analyzeFile path text).nodes) :
    ¬ demoMarker.toList <+: n.metadata.description.toList := by
  obtain ⟨d, hd, rfl⟩ := List.mem_map.1 h
  have hname := isName_displayName (isName_of_mem_declarations hd)
  exact not_marked_of_isName hname (displayName_prefix_describe d.name text)

end Source

end NavGraph
