import NavGraph.Proofs.Json.Reader

/-!
# Nested values

A reader that follows arrays and objects only so far gives up on the text of a value exactly if more
of them are nested in the value.  What comes behind the place where it gives up does not matter, be
it a mistake or the rest of the brackets.

## Main definitions

* `depth` - how deeply arrays and objects are nested in a value

## Main statements

* `nestsBeyond_append` - a text that nests too deeply does so whatever follows it
* `nestsBeyond_renderIn_append` - the text of a value nests as deeply as the value
* `nestsBeyond_brackets` - opening brackets nest as deeply as there are of them
-/

namespace NavGraph.Json

open Reader

mutual

/-- How deeply arrays and objects are nested in a value. -/
def depth : Json → Nat
  | array items => depthOfItems items + 1
  | object fields => depthOfFields fields + 1
  | _ => 0

/-- How deeply they are nested in the items of an array. -/
def depthOfItems : List Json → Nat
  | [] => 0
  | v :: rest => max (depth v) (depthOfItems rest)

/-- How deeply they are nested in the fields of an object. -/
def depthOfFields : List (String × Json) → Nat
  | [] => 0
  | (_, v) :: rest => max (depth v) (depthOfFields rest)

end

theorem depthOfItems_le_iff {n : Nat} {items : List Json} :
    depthOfItems items ≤ n ↔ ∀ v ∈ items, v.depth ≤ n := by
  induction items with
  | nil => exact iff_of_true (Nat.zero_le n) nofun
  | cons v items ih => rw [depthOfItems, Nat.max_le, ih, List.forall_mem_cons]

theorem depthOfFields_le_iff {n : Nat} {fields : List (String × Json)} :
    depthOfFields fields ≤ n ↔ ∀ field ∈ fields, field.2.depth ≤ n := by
  induction fields with
  | nil => exact iff_of_true (Nat.zero_le n) nofun
  | cons field fields ih =>
    obtain ⟨name, v⟩ := field
    rw [depthOfFields, Nat.max_le, ih, List.forall_mem_cons]

variable {limit : Nat} {stack : List Frame} {r next : Reader} {l : Lexeme} {ls ms : List Lexeme}
  {v : Json}

/-! ### Reading on -/

theorem not_opens (h : l.isOpening = false) : r.opens l = false := by
  unfold opens
  split
  · exact h
  · exact h
  · rfl

theorem nestsBeyond_cons (hopens : r.opens l = false) (h : r.step l = some next) :
    r.nestsBeyond limit (l :: ls) = next.nestsBeyond limit ls := by
  rw [Reader.nestsBeyond, hopens, h]
  simp

/-- What opens nothing may end a text. -/
theorem nestsBeyond_singleton (h : l.isOpening = false) : r.nestsBeyond limit [l] = false := by
  rw [Reader.nestsBeyond, not_opens h]
  cases r.step l <;> rfl

/-- A reader gives up on the first lexemes or, where it gets behind them, on the others. -/
theorem Reader.nestsBeyond_append (r : Reader) (ls ms : List Lexeme) :
    r.nestsBeyond limit (ls ++ ms) =
      (r.nestsBeyond limit ls || (r.run ls).any fun next => next.nestsBeyond limit ms) := by
  induction ls generalizing r with
  | nil => rfl
  | cons l ls ih =>
    rw [List.cons_append, Reader.nestsBeyond, Reader.nestsBeyond, Reader.run, Bool.or_assoc]
    congr 1
    cases r.step l with
    | none => rfl
    | some next => exact ih next

/-- Opening an array or an object takes one place on the stack. -/
theorem nestsBeyond_open (hopening : l.isOpening = true)
    (h : Reader.step ⟨stack, .value⟩ l = some next) :
    Reader.nestsBeyond limit ⟨stack, .value⟩ (l :: ls) = true ↔
      limit < stack.length + 1 ∨ next.nestsBeyond limit ls = true := by
  have hopens : Reader.opens ⟨stack, .value⟩ l = true := hopening
  rw [Reader.nestsBeyond, hopens, h, Option.any_some, Bool.true_and, Bool.or_eq_true,
    decide_eq_true_eq, Nat.lt_add_one_iff]

/-- What opens nothing may also stand at the end. -/
theorem nestsBeyond_concat (h : l.isOpening = false) :
    r.nestsBeyond limit (ls ++ [l]) = r.nestsBeyond limit ls := by
  rw [Reader.nestsBeyond_append]
  cases r.run ls with
  | none => exact Bool.or_false _
  | some next => rw [Option.any_some, nestsBeyond_singleton h, Bool.or_false]

/-! ### Values -/

/-- A value **nests by its depth** if a reader gives up on its lexemes exactly where the value is
nested more deeply than the open arrays and objects leave of the limit. -/
def NestsByDepth (limit : Nat) (v : Json) : Prop :=
  ∀ stack : List Frame, stack.length ≤ limit →
    (Reader.nestsBeyond limit ⟨stack, .value⟩ (lexemesOf v) = true ↔ limit < stack.length + v.depth)

theorem nestsByDepth_of_singleton (hls : lexemesOf v = [l]) (hl : l.isOpening = false)
    (hdepth : v.depth = 0) : NestsByDepth limit v := by
  intro stack hstack
  rw [hls, nestsBeyond_singleton hl, hdepth]
  exact iff_of_false nofun (by omega)

/-- A value with something behind it. -/
theorem NestsByDepth.append (h : NestsByDepth limit v) (hgets : Gets v) (stack : List Frame)
    (hstack : stack.length ≤ limit) :
    Reader.nestsBeyond limit ⟨stack, .value⟩ (lexemesOf v ++ ms) = true ↔
      limit < stack.length + v.depth ∨
        Reader.nestsBeyond limit ⟨stack, .separator v⟩ ms = true := by
  have hrun := hgets stack []
  rw [List.append_nil, Reader.run] at hrun
  rw [Reader.nestsBeyond_append, Bool.or_eq_true, h stack hstack, hrun, Option.any_some]

/-- The first item of an array is looked at like any value. -/
theorem nestsBeyond_firstItem (v : Json) :
    Reader.nestsBeyond limit ⟨.array [] :: stack, .firstItem⟩ (lexemesOf v ++ ms) =
      Reader.nestsBeyond limit ⟨.array [] :: stack, .value⟩ (lexemesOf v ++ ms) := by
  obtain ⟨l, ls, hls, hl⟩ := exists_lexemesOf_eq_cons v
  rw [hls, List.cons_append, Reader.nestsBeyond, Reader.nestsBeyond, step_firstItem hl]
  rfl

/-- Further items, by induction on them. -/
theorem nestsBeyond_lexemesOfItems {items : List Json}
    (hitems : ∀ v ∈ items, NestsByDepth limit v ∧ Gets v) (v : Json) (before : List Json)
    (hstack : stack.length + 1 ≤ limit) :
    Reader.nestsBeyond limit ⟨.array before :: stack, .separator v⟩ (lexemesOfItems items) = true ↔
      limit < stack.length + 1 + depthOfItems items := by
  induction items generalizing v before with
  | nil =>
    refine iff_of_false nofun ?_
    rw [depthOfItems]
    omega
  | cons w items ih =>
    obtain ⟨⟨hw, hgets⟩, hitems⟩ := List.forall_mem_cons.1 hitems
    have hcomma : Reader.step ⟨.array before :: stack, .separator v⟩ (.mark .comma) =
        some ⟨.array (v :: before) :: stack, .value⟩ := rfl
    rw [lexemesOfItems, List.cons_append, nestsBeyond_cons rfl hcomma,
      hw.append hgets (.array (v :: before) :: stack) hstack, ih hitems, List.length_cons,
      depthOfItems]
    omega

/-- A field behind its name. -/
theorem nestsBeyond_field (hv : NestsByDepth limit v) (hgets : Gets v)
    (fields : List (String × Json)) (name : String) (hstack : stack.length + 1 ≤ limit) :
    Reader.nestsBeyond limit ⟨.object fields name :: stack, .colon⟩
        (.mark .colon :: (lexemesOf v ++ ms)) = true ↔
      limit < stack.length + 1 + v.depth ∨
        Reader.nestsBeyond limit ⟨.object fields name :: stack, .separator v⟩ ms = true := by
  have hcolon : Reader.step ⟨.object fields name :: stack, .colon⟩ (.mark .colon) =
      some ⟨.object fields name :: stack, .value⟩ := rfl
  rw [nestsBeyond_cons rfl hcolon, hv.append hgets (.object fields name :: stack) hstack,
    List.length_cons]

/-- Further fields, by induction on them. -/
theorem nestsBeyond_lexemesOfFields {fields : List (String × Json)}
    (hfields : ∀ field ∈ fields, NestsByDepth limit field.2 ∧ Gets field.2) (v : Json)
    (before : List (String × Json)) (name : String) (hstack : stack.length + 1 ≤ limit) :
    Reader.nestsBeyond limit ⟨.object before name :: stack, .separator v⟩
        (lexemesOfFields fields) = true ↔
      limit < stack.length + 1 + depthOfFields fields := by
  induction fields generalizing v before name with
  | nil =>
    refine iff_of_false nofun ?_
    rw [depthOfFields]
    omega
  | cons field fields ih =>
    obtain ⟨next, w⟩ := field
    obtain ⟨⟨hw, hgets⟩, hfields⟩ := List.forall_mem_cons.1 hfields
    have hcomma : Reader.step ⟨.object before name :: stack, .separator v⟩ (.mark .comma) =
        some ⟨stack, .name (Assoc.put name v before)⟩ := rfl
    have hname : Reader.step ⟨stack, .name (Assoc.put name v before)⟩ (.string next) =
        some ⟨.object (Assoc.put name v before) next :: stack, .colon⟩ := rfl
    rw [lexemesOfFields, List.cons_append, List.cons_append, List.cons_append,
      nestsBeyond_cons rfl hcomma, nestsBeyond_cons rfl hname,
      nestsBeyond_field hw hgets _ _ hstack, ih hfields, depthOfFields]
    dsimp only
    omega

/-- **A plain value of short integers nests by its depth.** -/
theorem nestsByDepth_of_isPlain (h : v.IsPlain Number.IsShort) : NestsByDepth limit v := by
  induction h with
  | null => exact nestsByDepth_of_singleton rfl rfl rfl
  | bool b => cases b <;> exact nestsByDepth_of_singleton rfl rfl rfl
  | int h => exact nestsByDepth_of_singleton rfl rfl rfl
  | string s => exact nestsByDepth_of_singleton rfl rfl rfl
  | @array items hplain ih =>
    intro stack hstack
    have hopen : Reader.step ⟨stack, .value⟩ (.mark .openArray) =
        some ⟨.array [] :: stack, .firstItem⟩ := rfl
    cases items with
    | nil =>
      rw [lexemesOf, nestsBeyond_open rfl hopen, nestsBeyond_singleton rfl]
      simp [depth, depthOfItems]
    | cons v items =>
      have hitems := fun w hw => And.intro (ih w hw) (gets_of_isPlain (hplain w hw))
      obtain ⟨⟨hv, hgets⟩, hitems⟩ := List.forall_mem_cons.1 hitems
      rw [lexemesOf, nestsBeyond_concat (l := .mark .closeArray) rfl, List.cons_append,
        nestsBeyond_open rfl hopen, nestsBeyond_firstItem, depth, depthOfItems]
      -- The bracket takes a place of its own; where none is left, the items are not looked at.
      by_cases hroom : stack.length + 1 ≤ limit
      · rw [hv.append hgets (.array [] :: stack) hroom,
          nestsBeyond_lexemesOfItems hitems v [] hroom, List.length_cons]
        omega
      · exact iff_of_true (.inl (by omega)) (by omega)
  | @object fields _ hplain ih =>
    intro stack hstack
    have hopen : Reader.step ⟨stack, .value⟩ (.mark .openObject) = some ⟨stack, .firstName⟩ := rfl
    cases fields with
    | nil =>
      rw [lexemesOf, nestsBeyond_open rfl hopen, nestsBeyond_singleton rfl]
      simp [depth, depthOfFields]
    | cons field fields =>
      obtain ⟨name, v⟩ := field
      have hfields := fun w hw => And.intro (ih w hw) (gets_of_isPlain (hplain w hw))
      obtain ⟨⟨hv, hgets⟩, hfields⟩ := List.forall_mem_cons.1 hfields
      have hname : Reader.step ⟨stack, .firstName⟩ (.string name) =
          some ⟨.object [] name :: stack, .colon⟩ := rfl
      rw [lexemesOf, nestsBeyond_concat (l := .mark .closeObject) rfl, List.cons_append,
        List.cons_append, List.cons_append, nestsBeyond_open rfl hopen,
        nestsBeyond_cons rfl hname, depth, depthOfFields]
      by_cases hroom : stack.length + 1 ≤ limit
      · rw [nestsBeyond_field hv hgets [] name hroom,
          nestsBeyond_lexemesOfFields hfields v [] name hroom]
        dsimp only
        omega
      · exact iff_of_true (.inl (by omega)) (by omega)

/-! ### Texts -/

/-- The lexemes in front of the first mistake stay in front of it, whatever follows. -/
theorem lexemesBefore_prefix (state : Scan) (text more : List Char) :
    lexemesBefore state text <+: lexemesBefore state (text ++ more) := by
  induction text generalizing state with
  | nil => exact List.nil_prefix
  | cons c text ih =>
    rw [List.cons_append, lexemesBefore, lexemesBefore]
    cases scanChar state c with
    | none => exact List.prefix_rfl
    | some found => exact (List.prefix_append_right_inj found.2).2 (ih found.1)

/-- **A text that nests too deeply does so whatever follows it.** -/
theorem nestsBeyond_append {text : List Char} (h : nestsBeyond limit text = true)
    (more : List Char) : nestsBeyond limit (text ++ more) = true := by
  obtain ⟨later, hlater⟩ := lexemesBefore_prefix .between text more
  rw [nestsBeyond, ← hlater, Reader.nestsBeyond_append, Bool.or_eq_true]
  exact .inl h

/-- Of the lexemes of a text at most a bare word is not in front of its end. -/
theorem exists_word_of_lexemesFrom {state : Scan} {text : List Char}
    (h : lexemesFrom state text = some ls) :
    ls = lexemesBefore state text ∨ ∃ w, ls = lexemesBefore state text ++ [.word w] := by
  induction text generalizing state ls with
  | nil =>
    cases state with
    | between =>
      cases h
      exact .inl rfl
    | word chars =>
      cases h
      exact .inr ⟨_, rfl⟩
    | _ => cases h
  | cons c text ih =>
    rw [lexemesFrom] at h
    rw [lexemesBefore]
    cases hscan : scanChar state c with
    | none =>
      rw [hscan] at h
      cases h
    | some found =>
      rw [hscan] at h
      obtain ⟨later, hlater, rfl⟩ := Option.map_eq_some_iff.1 h
      obtain rfl | ⟨w, rfl⟩ := ih hlater
      · exact .inl rfl
      · exact .inr ⟨w, (List.append_assoc ..).symm⟩

/-- A text nests as its lexemes do. -/
theorem nestsBeyond_of_lexemes? {text : List Char} (h : lexemes? text = some ls) :
    nestsBeyond limit text = Reader.nestsBeyond limit ⟨[], .value⟩ ls := by
  obtain rfl | ⟨w, rfl⟩ := exists_word_of_lexemesFrom h
  · rfl
  · exact (nestsBeyond_concat rfl).symm

/-- **The text of a plain value nests as deeply as the value**, whatever the layout and whatever
blanks follow. -/
theorem nestsBeyond_renderIn_append (h : v.IsPlain Number.IsShort) (layout : Layout)
    {blanks : List Char} (hblanks : ∀ c ∈ blanks, isSpace c = true) :
    nestsBeyond limit (renderIn layout v ++ blanks) = true ↔ limit < v.depth := by
  have hspells := (spells_renderIn h layout).append_blanks hblanks
  rw [nestsBeyond_of_lexemes? hspells.lexemes?, nestsByDepth_of_isPlain h [] (Nat.zero_le limit)]
  simp

/-- Opening brackets where the first item of an array may come. -/
theorem nestsBeyond_replicate {n : Nat} (h : limit < stack.length + n) (hn : 0 < n)
    (rest : List Lexeme) : Reader.nestsBeyond limit ⟨stack, .firstItem⟩
      (List.replicate n (.mark .openArray) ++ rest) = true := by
  -- An array may be opened in any frame, so the stack is any list of them.
  have hopen : ∀ stack, Reader.step ⟨stack, .firstItem⟩ (.mark .openArray) =
      some ⟨.array [] :: stack, .firstItem⟩ := by
    rintro (_ | ⟨_ | _, _⟩) <;> rfl
  induction n generalizing stack with
  | zero => cases hn
  | succ n ih =>
    rw [List.replicate_succ, List.cons_append, Reader.nestsBeyond, hopen, Option.any_some,
      Bool.or_eq_true]
    by_cases hfull : limit ≤ stack.length
    · refine .inl ?_
      rw [Bool.and_eq_true]
      exact ⟨rfl, decide_eq_true hfull⟩
    · refine .inr (ih ?_ (by omega))
      rw [List.length_cons]
      omega

theorem lexemesBefore_brackets (n : Nat) :
    lexemesBefore .between (List.replicate n '[') = List.replicate n (.mark .openArray) := by
  induction n with
  | zero => rfl
  | succ n ih =>
    rw [List.replicate_succ, List.replicate_succ, lexemesBefore, ← ih]
    rfl

/-- **Opening brackets nest as deeply as there are of them**, whatever follows. -/
theorem nestsBeyond_brackets {n : Nat} (h : limit < n) (rest : List Char) :
    nestsBeyond limit (List.replicate n '[' ++ rest) = true := by
  refine nestsBeyond_append ?_ rest
  obtain ⟨m, rfl⟩ : ∃ m, n = m + 1 := ⟨n - 1, by omega⟩
  have hopen : Reader.step ⟨[], .value⟩ (.mark .openArray) = some ⟨[.array []], .firstItem⟩ := rfl
  rw [nestsBeyond, lexemesBefore_brackets, List.replicate_succ, nestsBeyond_open rfl hopen]
  by_cases hroom : limit < 1
  · exact .inl hroom
  · have hdeep : limit < [Frame.array []].length + m := by
      rw [List.length_singleton]
      omega
    have hbehind := nestsBeyond_replicate hdeep (by omega) []
    rw [List.append_nil] at hbehind
    exact .inr hbehind

end NavGraph.Json
