import NavGraph.Json.Reader
import NavGraph.Proofs.Assoc
import NavGraph.Proofs.Json.Lexeme

/-!
# Reading written values

A plain value of short integers comes back from its text, whatever the layout that it is written in:
the reader gets it from its lexemes, with whatever arrays and objects are open around it.

## Main definitions

* `Number.IsShort` - integers that are not too long to be read

## Main statements

* `literal?_intText` - an integer is the literal that it is written as
* `gets_of_isPlain` - the reader gets a value from its lexemes
* `parse?_renderIn_append` - a value comes back from its text
-/

namespace NavGraph

namespace Number

/-! ### Literals -/

/-- An integer is **short** if it has no more digits than a reader accepts. -/
def IsShort (n : Int) : Prop := (Text.digitsOfNat n.natAbs).length ≤ maxDigits

variable {digits : List Char}

theorem spanDigits_of_isDigit (h : ∀ c ∈ digits, c.isDigit = true) :
    spanDigits digits = (digits.map (·.toNat - 48), []) := by
  induction digits with
  | nil => rfl
  | cons c digits ih =>
    obtain ⟨hc, hdigits⟩ := List.forall_mem_cons.1 h
    rw [spanDigits, Text.asciiDigit?_of_isDigit hc, ih hdigits]
    rfl

/-- Digits are a literal if they are not too many, and a single one or begin with another digit than
zero; a minus sign may stand before them. -/
theorem literal?_digits {c : Char} (hdigits : ∀ d ∈ c :: digits, d.isDigit = true)
    (hleads : digits = [] ∨ c.toNat - 48 ≠ 0) (hcount : (c :: digits).length ≤ maxDigits)
    (negative : Bool) :
    literal? (if negative then '-' :: c :: digits else c :: digits) =
      some (.int (signedInt negative ((c :: digits).map (·.toNat - 48)))) := by
  have hspan := spanDigits_of_isDigit hdigits
  have hminus : c ≠ '-' := by
    rintro rfl
    exact absurd (hdigits '-' List.mem_cons_self) (by decide)
  rw [List.length_cons] at hcount
  cases digits with
  | nil => cases negative <;> simp [literal?, hspan, hminus, maxDigits]
  | cons d digits =>
    have hc : c.toNat - 48 ≠ 0 := hleads.resolve_left (List.cons_ne_nil d digits)
    rw [List.length_cons] at hcount
    cases negative <;> simp [literal?, hspan, hminus, hc, hcount]

/-- **A short integer is the literal that it is written as.** -/
theorem literal?_intText {n : Int} (h : IsShort n) :
    literal? (Text.intText n) = some (.int n) := by
  have hdigits : ∀ c ∈ Text.digitsOfNat n.natAbs, c.isDigit = true := fun _ hc =>
    Text.isDigit_of_mem_digitsOfNat hc
  have hvalue : Text.natOfDigits 0 ((Text.digitsOfNat n.natAbs).map (·.toNat - 48)) = n.natAbs := by
    rw [Text.natOfDigits_map]
    exact Nat.ofDigitChars_ten_toDigits
  have hcons : ∃ c rest, Text.digitsOfNat n.natAbs = c :: rest ∧
      (rest = [] ∨ c.toNat - 48 ≠ 0) := by
    obtain hzero | hpos := Nat.eq_zero_or_pos n.natAbs
    · exact ⟨'0', [], by rw [hzero]; rfl, .inl rfl⟩
    · obtain ⟨c, rest, hcons, hc⟩ := Text.exists_digitsOfNat_eq_cons hpos
      exact ⟨c, rest, hcons, .inr hc⟩
  obtain ⟨c, rest, hcons, hleads⟩ := hcons
  have hsign : (if n < 0 then -Int.ofNat n.natAbs else Int.ofNat n.natAbs) = n := by
    rw [Int.ofNat_eq_natCast]
    omega
  have hcount : (c :: rest).length ≤ maxDigits := hcons ▸ h
  have hliteral := literal?_digits (hcons ▸ hdigits) hleads hcount (decide (n < 0))
  rw [← hcons, signedInt, hvalue] at hliteral
  simp only [decide_eq_true_eq, hsign] at hliteral
  exact hliteral

end Number

namespace Json

open Reader

/-! ### Words -/

/-- An integer ends with a digit. -/
theorem isDigit_of_mem_getLast? {n : Int} {c : Char} (h : c ∈ (Text.intText n).getLast?) :
    c.isDigit = true := by
  have hlast : (Text.intText n).getLast? = (Text.digitsOfNat n.natAbs).getLast? := by
    obtain ⟨d, rest, hdigits⟩ :=
      List.exists_cons_of_ne_nil (Nat.toDigits_ne_nil (b := 10) (n := n.natAbs))
    unfold Text.intText Text.digitsOfNat
    split
    · rw [hdigits, List.getLast?_cons_cons]
    · rfl
  rw [hlast] at h
  exact Text.isDigit_of_mem_digitsOfNat (List.mem_of_getLast? h)

/-- An integer is none of the names that stand for values, which end with letters. -/
theorem ofList_intText_ne {n : Int} {name : String} {c : Char}
    (hlast : name.toList.getLast? = some c) (hc : c.isDigit = false) :
    String.ofList (Text.intText n) ≠ name := by
  rintro rfl
  rw [String.toList_ofList] at hlast
  rw [isDigit_of_mem_getLast? hlast] at hc
  cases hc

theorem wordValue?_intText {n : Int} (h : Number.IsShort n) :
    wordValue? (Text.intText n) = some (int n) := by
  unfold wordValue?
  split
  · rename_i heq
    exact absurd heq (ofList_intText_ne (c := 'l') rfl rfl)
  · rename_i heq
    exact absurd heq (ofList_intText_ne (c := 'e') rfl rfl)
  · rename_i heq
    exact absurd heq (ofList_intText_ne (c := 'e') rfl rfl)
  · rename_i heq
    exact absurd heq (ofList_intText_ne (c := 'N') rfl rfl)
  · rename_i heq
    exact absurd heq (ofList_intText_ne (c := 'y') rfl rfl)
  · rename_i heq
    exact absurd heq (ofList_intText_ne (c := 'y') rfl rfl)
  · rw [Number.literal?_intText h]
    rfl

/-! ### Values -/

variable {stack : List Frame} {rest : List Lexeme} {v : Json}

theorem run_cons {r next : Reader} {l : Lexeme} (h : r.step l = some next) :
    r.run (l :: rest) = next.run rest := by
  rw [run, h]
  rfl

/-- The lexemes of a value do not begin with what would close an array. -/
theorem exists_lexemesOf_eq_cons (v : Json) :
    ∃ l ls, lexemesOf v = l :: ls ∧ l ≠ .mark .closeArray := by
  cases v with
  | null => exact ⟨_, _, rfl, nofun⟩
  | bool b => cases b <;> exact ⟨_, _, rfl, nofun⟩
  | int n => exact ⟨_, _, rfl, nofun⟩
  | float x => exact ⟨_, _, rfl, nofun⟩
  | string s => exact ⟨_, _, rfl, nofun⟩
  | array items => cases items <;> exact ⟨_, _, rfl, nofun⟩
  | object fields => cases fields <;> exact ⟨_, _, rfl, nofun⟩

/-- What does not close an array begins its first item. -/
theorem step_firstItem {l : Lexeme} (hl : l ≠ .mark .closeArray) :
    Reader.step ⟨.array [] :: stack, .firstItem⟩ l =
      Reader.step ⟨.array [] :: stack, .value⟩ l := by
  cases l with
  | mark m => cases m <;> first | rfl | exact absurd rfl hl
  | string s => rfl
  | word w => rfl

/-- The first item of an array is read like any value. -/
theorem run_firstItem (v : Json) :
    run ⟨.array [] :: stack, .firstItem⟩ (lexemesOf v ++ rest) =
      run ⟨.array [] :: stack, .value⟩ (lexemesOf v ++ rest) := by
  obtain ⟨l, ls, hls, hl⟩ := exists_lexemesOf_eq_cons v
  rw [hls, List.cons_append, run, run, step_firstItem hl]

/-- The reader **gets** a value from its lexemes, whatever is open around it. -/
def Gets (v : Json) : Prop := ∀ stack rest,
  run ⟨stack, .value⟩ (lexemesOf v ++ rest) = run ⟨stack, .separator v⟩ rest

/-- Further items, by induction on them. -/
theorem run_lexemesOfItems {items : List Json} (hitems : ∀ v ∈ items, Gets v) (v : Json)
    (before : List Json) :
    run ⟨.array before :: stack, .separator v⟩
        (lexemesOfItems items ++ .mark .closeArray :: rest) =
      run ⟨stack, .separator (array (before.reverse ++ v :: items))⟩ rest := by
  induction items generalizing v before with
  | nil =>
    rw [lexemesOfItems, List.nil_append, run_cons (r := ⟨.array before :: stack, .separator v⟩) rfl,
      List.reverse_cons]
  | cons w items ih =>
    obtain ⟨hw, hitems⟩ := List.forall_mem_cons.1 hitems
    have hcomma : Reader.step ⟨.array before :: stack, .separator v⟩ (.mark .comma) =
        some ⟨.array (v :: before) :: stack, .value⟩ := rfl
    rw [lexemesOfItems, List.cons_append, List.cons_append, List.append_assoc, run_cons hcomma, hw,
      ih hitems, List.reverse_cons, List.append_assoc]
    rfl

/-- A field behind its name. -/
theorem run_field (hv : Gets v) (fields : List (String × Json)) (name : String) :
    run ⟨.object fields name :: stack, .colon⟩ (.mark .colon :: (lexemesOf v ++ rest)) =
      run ⟨.object fields name :: stack, .separator v⟩ rest := by
  have hcolon : Reader.step ⟨.object fields name :: stack, .colon⟩ (.mark .colon) =
      some ⟨.object fields name :: stack, .value⟩ := rfl
  rw [run_cons hcolon, hv]

/-- A field with a new name is put at the end. -/
theorem put_of_nodup {before fields : List (String × Json)} {name : String}
    (hnodup : ((before ++ (name, v) :: fields).map Prod.fst).Nodup) :
    Assoc.put name v before = before ++ [(name, v)] := by
  rw [List.map_append, List.map_cons] at hnodup
  have hdisjoint := (List.nodup_append.1 hnodup).2.2
  exact Assoc.put_of_notMem fun hmem => hdisjoint name hmem name List.mem_cons_self rfl

/-- Further fields, by induction on them. -/
theorem run_lexemesOfFields {fields : List (String × Json)}
    (hfields : ∀ field ∈ fields, Gets field.2) (before : List (String × Json)) (name : String)
    (hnodup : ((before ++ (name, v) :: fields).map Prod.fst).Nodup) :
    run ⟨.object before name :: stack, .separator v⟩
        (lexemesOfFields fields ++ .mark .closeObject :: rest) =
      run ⟨stack, .separator (object (before ++ (name, v) :: fields))⟩ rest := by
  induction fields generalizing v before name with
  | nil =>
    have hclose : Reader.step ⟨.object before name :: stack, .separator v⟩ (.mark .closeObject) =
        some ⟨stack, .separator (object (Assoc.put name v before))⟩ := rfl
    rw [lexemesOfFields, List.nil_append, run_cons hclose, put_of_nodup hnodup]
  | cons field fields ih =>
    obtain ⟨next, w⟩ := field
    obtain ⟨hw, hfields⟩ := List.forall_mem_cons.1 hfields
    have hcomma : Reader.step ⟨.object before name :: stack, .separator v⟩ (.mark .comma) =
        some ⟨stack, .name (before ++ [(name, v)])⟩ :=
      put_of_nodup hnodup ▸ rfl
    have hname : Reader.step ⟨stack, .name (before ++ [(name, v)])⟩ (.string next) =
        some ⟨.object (before ++ [(name, v)]) next :: stack, .colon⟩ := rfl
    have hassoc : before ++ (name, v) :: (next, w) :: fields =
        before ++ [(name, v)] ++ (next, w) :: fields := by
      rw [List.append_assoc, List.singleton_append]
    rw [hassoc] at hnodup
    simp only [lexemesOfFields, List.append_assoc, List.cons_append]
    rw [run_cons hcomma, run_cons hname, run_field hw, ih hfields _ _ hnodup, hassoc]

/-- **The reader gets a plain value of short integers from its lexemes.** -/
theorem gets_of_isPlain (h : v.IsPlain Number.IsShort) : Gets v := by
  induction h with
  | null => exact fun _ _ => run_cons rfl
  | bool b => cases b <;> exact fun _ _ => run_cons rfl
  | @int n h =>
    intro stack rest
    have hstep : Reader.step ⟨stack, .value⟩ (.word (Text.intText n)) =
        (wordValue? (Text.intText n)).map fun v => ⟨stack, .separator v⟩ := rfl
    rw [wordValue?_intText h] at hstep
    exact run_cons hstep
  | string s => exact fun _ _ => run_cons rfl
  | @array items _ ih =>
    intro stack rest
    cases items with
    | nil => rfl
    | cons v items =>
      obtain ⟨hv, hitems⟩ := List.forall_mem_cons.1 ih
      have hopen : Reader.step ⟨stack, .value⟩ (.mark .openArray) =
          some ⟨.array [] :: stack, .firstItem⟩ := rfl
      simp only [lexemesOf, List.append_assoc, List.cons_append, List.nil_append]
      rw [run_cons hopen, run_firstItem, hv, run_lexemesOfItems hitems]
      rfl
  | @object fields hnodup _ ih =>
    intro stack rest
    cases fields with
    | nil => rfl
    | cons field fields =>
      obtain ⟨name, v⟩ := field
      obtain ⟨hv, hfields⟩ := List.forall_mem_cons.1 ih
      have hopen : Reader.step ⟨stack, .value⟩ (.mark .openObject) =
          some ⟨stack, .firstName⟩ := rfl
      have hname : Reader.step ⟨stack, .firstName⟩ (.string name) =
          some ⟨.object [] name :: stack, .colon⟩ := rfl
      simp only [lexemesOf, List.append_assoc, List.cons_append, List.nil_append]
      rw [run_cons hopen, run_cons hname, run_field hv, run_lexemesOfFields hfields [] name hnodup]
      rfl

end Json

end NavGraph
