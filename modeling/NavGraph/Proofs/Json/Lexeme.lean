import Mathlib.Tactic.SplitIfs
import NavGraph.Json.Lexeme
import NavGraph.Json.Writer
import NavGraph.Proofs.Text.Digit

/-!
# Lexemes of written values

A value has its lexemes, whatever the layout that it is written in: the scanner finds them in the
text, and goes on between lexemes behind it.  Only a bare word has no end of its own, so what
follows a value must not continue a word.

## Main definitions

* `IsPlain` - values without floats and without a name that comes twice
* `lexemesOf` - the lexemes of a value
* `Spells` - a text spells lexemes, whatever ends it

## Main statements

* `spells_renderString` - a string in its quotes spells itself, with all its escapes
* `spells_renderIn` - a plain value spells its lexemes in every layout

## Design notes

Every value that is not a float is written as it is, but a reader may refuse integers for their
length.  So what is asked of integers is a parameter of plain values.
-/

namespace NavGraph.Json

/-- A value is **plain** if it has no floats and no name comes twice in an object, where something
may be asked of integers. -/
inductive IsPlain (p : Int → Prop) : Json → Prop where
  | null : IsPlain p null
  | bool (b : Bool) : IsPlain p (bool b)
  | int {n : Int} (h : p n) : IsPlain p (int n)
  | string (s : String) : IsPlain p (string s)
  | array {items : List Json} (h : ∀ v ∈ items, IsPlain p v) : IsPlain p (array items)
  | object {fields : List (String × Json)} (nodup : (fields.map Prod.fst).Nodup)
      (h : ∀ field ∈ fields, IsPlain p field.2) : IsPlain p (object fields)

mutual

/-- The lexemes of a value. -/
def lexemesOf : Json → List Lexeme
  | null => [.word "null".toList]
  | bool true => [.word "true".toList]
  | bool false => [.word "false".toList]
  | int n => [.word (Text.intText n)]
  | float x => [.word (renderFloat x)]
  | string s => [.string s]
  | array [] => [.mark .openArray, .mark .closeArray]
  | array (v :: rest) =>
      .mark .openArray :: lexemesOf v ++ lexemesOfItems rest ++ [.mark .closeArray]
  | object [] => [.mark .openObject, .mark .closeObject]
  | object ((name, v) :: rest) =>
      .mark .openObject :: .string name :: .mark .colon :: lexemesOf v ++ lexemesOfFields rest ++
        [.mark .closeObject]

/-- The lexemes of further items of an array. -/
def lexemesOfItems : List Json → List Lexeme
  | [] => []
  | v :: rest => .mark .comma :: lexemesOf v ++ lexemesOfItems rest

/-- The lexemes of further fields of an object. -/
def lexemesOfFields : List (String × Json) → List Lexeme
  | [] => []
  | (name, v) :: rest =>
      .mark .comma :: .string name :: .mark .colon :: lexemesOf v ++ lexemesOfFields rest

end

/-- A text **ends a word** if it does not begin with a character of words. -/
def EndsWord (text : List Char) : Prop := ∀ c ∈ text.head?, isWordChar c = false

/-- A text **spells** lexemes if they are found in it, whatever follows that ends a word. -/
def Spells (text : List Char) (ls : List Lexeme) : Prop :=
  ∀ rest, EndsWord rest →
    lexemesFrom .between (text ++ rest) = (lexemesFrom .between rest).map (ls ++ ·)

variable {text more rest word : List Char} {ls ms : List Lexeme} {c : Char}

/-! ### Composition -/

/-- A character that completes no lexeme. -/
theorem lexemesFrom_cons {state next : Scan} (h : scanChar state c = some (next, [])) :
    lexemesFrom state (c :: rest) = lexemesFrom next rest := by
  rw [lexemesFrom, h]
  exact Option.map_id_apply

/-- A character that completes a lexeme. -/
theorem lexemesFrom_cons_of_done {state next : Scan} {l : Lexeme}
    (h : scanChar state c = some (next, [l])) :
    lexemesFrom state (c :: rest) = (lexemesFrom next rest).map (l :: ·) := by
  rw [lexemesFrom, h]
  rfl

theorem EndsWord.append (htext : EndsWord text) (hrest : EndsWord rest) :
    EndsWord (text ++ rest) := by
  cases text with
  | nil => exact hrest
  | cons c text => exact htext

theorem Spells.lexemes? (h : Spells text ls) : lexemes? text = some ls := by
  have hall := h [] nofun
  rw [List.append_nil] at hall
  rw [Json.lexemes?, hall]
  simp [lexemesFrom]

theorem Spells.nil : Spells [] [] := fun rest _ => by simp

theorem Spells.append (h : Spells text ls) (hmore : Spells more ms) (hends : EndsWord more) :
    Spells (text ++ more) (ls ++ ms) := by
  intro rest hrest
  rw [List.append_assoc, h _ (hends.append hrest), hmore rest hrest, Option.map_map]
  simp [Function.comp_def]

/-- A mark has an end of its own. -/
theorem Spells.mark {m : Mark} (hmark : scanChar .between c = some (.between, [.mark m]))
    (h : Spells text ls) : Spells (c :: text) (.mark m :: ls) := by
  intro rest hrest
  rw [List.cons_append, lexemesFrom_cons_of_done hmark, h rest hrest, Option.map_map]
  rfl

theorem Spells.blank (hblank : isSpace c = true) (h : Spells text ls) : Spells (c :: text) ls := by
  intro rest hrest
  have hscan : scanChar .between c = some (.between, []) := if_pos hblank
  rw [List.cons_append, lexemesFrom_cons hscan, h rest hrest]

theorem Spells.newLine (layout : Layout) (h : Spells text ls) :
    Spells (layout.newLine ++ text) ls := by
  have hblanks : ∀ n, Spells (List.replicate n ' ' ++ text) ls := by
    intro n
    induction n with
    | zero => exact h
    | succ n ih => exact ih.blank rfl
  cases layout with
  | line => exact h
  | lines depth => exact (hblanks _).blank rfl

theorem Spells.comma (layout : Layout) (h : Spells text ls) :
    Spells (layout.comma ++ text) (.mark .comma :: ls) := by
  cases layout with
  | line => exact (h.blank rfl).mark rfl
  | lines depth => exact h.mark rfl

theorem endsWord_newLine_append (layout : Layout) (h : EndsWord text) :
    EndsWord (layout.newLine ++ text) := by
  cases layout with
  | line => exact h
  | lines depth =>
    rintro _ ⟨⟩
    rfl

theorem endsWord_comma_append (layout : Layout) : EndsWord (layout.comma ++ text) := by
  cases layout <;> rintro _ ⟨⟩ <;> rfl

/-! ### Words -/

theorem isWordChar_of_isSpace (h : isSpace c = true) : isWordChar c = false := by
  simp only [isSpace, Bool.or_eq_true, beq_iff_eq] at h
  obtain ((rfl | rfl) | rfl) | rfl := h <;> decide

/-- Blanks behind a text change nothing. -/
theorem Spells.append_blanks (h : Spells text ls) {blanks : List Char}
    (hblanks : ∀ c ∈ blanks, isSpace c = true) : Spells (text ++ blanks) ls := by
  have hends : EndsWord blanks := fun c hc =>
    isWordChar_of_isSpace (hblanks c (List.mem_of_mem_head? hc))
  have hnone : Spells blanks [] := by
    clear hends
    induction blanks with
    | nil => exact .nil
    | cons c blanks ih =>
      obtain ⟨hc, hblanks⟩ := List.forall_mem_cons.1 hblanks
      exact (ih hblanks).blank hc
  have happend := h.append hnone hends
  rwa [List.append_nil] at happend

theorem scanChar_between_of_isWordChar (h : isWordChar c = true) :
    scanChar .between c = some (.word [c], []) := by
  have hspace : ¬ isSpace c = true := fun hspace => by
    rw [isWordChar_of_isSpace hspace] at h
    cases h
  have hquote : c ≠ Text.doubleQuote := by
    rintro rfl
    exact absurd h (by decide)
  rw [scanChar, scanBetween, if_neg hspace, if_neg hquote, if_pos h]

/-- The rest of a word, by induction on it. -/
theorem lexemesFrom_word (chars : List Char) (hword : ∀ c ∈ word, isWordChar c = true)
    (hrest : EndsWord rest) : lexemesFrom (.word chars) (word ++ rest) =
      (lexemesFrom .between rest).map (.word (chars.reverse ++ word) :: ·) := by
  induction word generalizing chars with
  | nil =>
    cases rest with
    | nil => simp [lexemesFrom]
    | cons c rest =>
      have hc : isWordChar c = false := hrest c rfl
      rw [List.nil_append, lexemesFrom, scanChar, hc, lexemesFrom, scanChar, List.append_nil]
      cases scanBetween c with
      | none => rfl
      | some next => simp [Function.comp_def]
  | cons c word ih =>
    obtain ⟨hc, hword⟩ := List.forall_mem_cons.1 hword
    have hscan : scanChar (.word chars) c = some (.word (c :: chars), []) := if_pos hc
    rw [List.cons_append, lexemesFrom_cons hscan, ih (c :: chars) hword, List.reverse_cons,
      List.append_assoc]
    rfl

theorem spells_word (hne : word ≠ []) (hword : ∀ c ∈ word, isWordChar c = true) :
    Spells word [.word word] := by
  intro rest hrest
  obtain ⟨c, word, rfl⟩ := List.exists_cons_of_ne_nil hne
  obtain ⟨hc, hword⟩ := List.forall_mem_cons.1 hword
  rw [List.cons_append, lexemesFrom_cons (scanChar_between_of_isWordChar hc),
    lexemesFrom_word [c] hword hrest]
  rfl

theorem spells_name {name : String} (hne : name.toList ≠ [])
    (hname : name.toList.all isWordChar = true) : Spells name.toList [.word name.toList] :=
  spells_word hne (List.all_eq_true.1 hname)

theorem isWordChar_of_isDigit (h : c.isDigit = true) : isWordChar c = true := by
  simp [isWordChar, Char.isAlphanum, h]

theorem spells_intText (n : Int) : Spells (Text.intText n) [.word (Text.intText n)] := by
  have hdigits : ∀ c ∈ Text.digitsOfNat n.natAbs, isWordChar c = true := fun c hc =>
    isWordChar_of_isDigit (Text.isDigit_of_mem_digitsOfNat hc)
  have hne : Text.digitsOfNat n.natAbs ≠ [] := Nat.toDigits_ne_nil
  unfold Text.intText
  split
  · exact spells_word (List.cons_ne_nil _ _) (List.forall_mem_cons.2 ⟨rfl, hdigits⟩)
  · exact spells_word hne hdigits

/-! ### Strings -/

/-- The four digits of a control character. -/
theorem hexDigits_of_lt {n : Nat} (h : n < 32) : ∃ c d, Text.hexDigits 4 n = ['0', '0', c, d] ∧
    hexValue? c = some (n / 16) ∧ hexValue? d = some (n % 16) := by
  have hall : ∀ n < 32, Text.hexDigits 4 n =
      ['0', '0', Nat.digitChar (n / 16), Nat.digitChar (n % 16)] ∧
        hexValue? (Nat.digitChar (n / 16)) = some (n / 16) ∧
        hexValue? (Nat.digitChar (n % 16)) = some (n % 16) := by
    decide
  exact ⟨_, _, hall n h⟩

theorem lexemesFrom_unit (s : StringSoFar) {n : Nat} (h : n < 32) :
    lexemesFrom (.unit s 4 0) (Text.hexDigits 4 n ++ rest) =
      lexemesFrom (.string (s.push (Char.ofNat n))) rest := by
  obtain ⟨c, d, hdigits, hc, hd⟩ := hexDigits_of_lt h
  have hunit : s.pushUnit n = s.push (Char.ofNat n) := by
    rw [StringSoFar.pushUnit, if_neg (by omega), if_neg (by omega)]
  have hn : n / 16 * 16 + n % 16 = n := Nat.div_add_mod' n 16
  have hzero : ∀ missing, scanChar (.unit s (missing + 2) 0) '0' =
      some (.unit s (missing + 1) 0, []) := fun _ => rfl
  have hlast : scanChar (.unit s 1 (n / 16)) d = some (.string (s.push (Char.ofNat n)), []) := by
    simp [scanChar, hd, hn, hunit]
  have hfirst : scanChar (.unit s 2 0) c = some (.unit s 1 (n / 16), []) := by
    simp [scanChar, hc]
  rw [hdigits]
  simp only [List.cons_append, List.nil_append]
  rw [lexemesFrom_cons (hzero 2), lexemesFrom_cons (hzero 1), lexemesFrom_cons hfirst,
    lexemesFrom_cons hlast]

/-- **A character is scanned from its written form**, with an escape or without one. -/
theorem lexemesFrom_renderChar (chars : List Char) (c : Char) :
    lexemesFrom (.string ⟨chars, none⟩) (renderChar c ++ rest) =
      lexemesFrom (.string ⟨c :: chars, none⟩) rest := by
  have hopen : scanChar (.string ⟨chars, none⟩) Text.backslash =
      some (.escape ⟨chars, none⟩, []) := rfl
  -- Escapes of one letter differ in the letter only.
  have hletter : ∀ letter, scanChar (.escape ⟨chars, none⟩) letter =
      some (.string ⟨c :: chars, none⟩, []) →
      lexemesFrom (.string ⟨chars, none⟩) ([Text.backslash, letter] ++ rest) =
        lexemesFrom (.string ⟨c :: chars, none⟩) rest := by
    intro letter hscan
    rw [List.cons_append, lexemesFrom_cons hopen, List.cons_append, lexemesFrom_cons hscan,
      List.nil_append]
  have hchar : ∀ n, c.toNat = n → c = Char.ofNat n := fun n h => h ▸ c.ofNat_toNat.symm
  unfold renderChar
  dsimp only
  split_ifs with hquoted hn hn hn hn hn hcontrol
  · refine hletter c ?_
    obtain rfl | rfl := hquoted <;> rfl
  · exact hletter 'b' (by rw [hchar 8 hn]; rfl)
  · exact hletter 't' (by rw [hchar 9 hn]; rfl)
  · exact hletter 'n' (by rw [hchar 10 hn]; rfl)
  · exact hletter 'f' (by rw [hchar 12 hn]; rfl)
  · exact hletter 'r' (by rw [hchar 13 hn]; rfl)
  · have hunit : scanChar (.escape ⟨chars, none⟩) 'u' = some (.unit ⟨chars, none⟩ 4 0, []) := rfl
    rw [List.append_assoc, List.cons_append, lexemesFrom_cons hopen, List.cons_append,
      lexemesFrom_cons hunit, List.nil_append, lexemesFrom_unit _ hcontrol, c.ofNat_toNat]
    rfl
  · have hscan : scanChar (.string ⟨chars, none⟩) c = some (.string ⟨c :: chars, none⟩, []) := by
      rw [not_or] at hquoted
      rw [scanChar, if_neg hquoted.1, if_neg hquoted.2, if_neg hcontrol]
      rfl
    rw [List.cons_append, lexemesFrom_cons hscan, List.nil_append]

theorem lexemesFrom_renderString (chars : List Char) (s : List Char) :
    lexemesFrom (.string ⟨chars, none⟩) (s.flatMap renderChar ++ Text.doubleQuote :: rest) =
      (lexemesFrom .between rest).map
        (.string (String.ofList (chars.reverse ++ s)) :: ·) := by
  induction s generalizing chars with
  | nil =>
    rw [List.append_nil]
    exact lexemesFrom_cons_of_done rfl
  | cons c s ih =>
    rw [List.flatMap_cons, List.append_assoc, lexemesFrom_renderChar, ih, List.reverse_cons,
      List.append_assoc]
    rfl

/-- **A string in its quotes spells itself.** -/
theorem spells_renderString (s : String) : Spells (renderString s) [.string s] := by
  intro rest _
  have hopen : scanChar .between Text.doubleQuote = some (.string ⟨[], none⟩, []) := rfl
  rw [renderString, List.append_assoc, List.cons_append, lexemesFrom_cons hopen]
  exact (lexemesFrom_renderString [] s.toList).trans (by simp)

/-! ### Values -/

variable {layout : Layout}

theorem endsWord_renderItems (items : List Json) (h : EndsWord text) :
    EndsWord (renderItems layout items ++ text) := by
  cases items with
  | nil => exact h
  | cons v items =>
    rw [renderItems]
    simp only [List.append_assoc]
    exact endsWord_comma_append layout

theorem endsWord_renderFields (fields : List (String × Json)) (h : EndsWord text) :
    EndsWord (renderFields layout fields ++ text) := by
  cases fields with
  | nil => exact h
  | cons field fields =>
    rw [renderFields]
    simp only [List.append_assoc]
    exact endsWord_comma_append layout

/-- Further items spell their lexemes if each of them does, and so does what follows them. -/
theorem Spells.renderItems {items : List Json}
    (hitems : ∀ v ∈ items, Spells (renderIn layout v) (lexemesOf v)) (h : Spells text ls)
    (hends : EndsWord text) :
    Spells (renderItems layout items ++ text) (lexemesOfItems items ++ ls) := by
  induction items with
  | nil => exact h
  | cons v items ih =>
    obtain ⟨hv, hitems⟩ := List.forall_mem_cons.1 hitems
    simp only [Json.renderItems, lexemesOfItems, List.append_assoc, List.cons_append]
    exact .comma layout (.newLine layout (hv.append (ih hitems) (endsWord_renderItems items hends)))

/-- A field spells its name, a colon and the lexemes of its value. -/
theorem Spells.field {name : String} {v : Json} (hv : Spells (renderIn layout v) (lexemesOf v))
    (h : Spells text ls) (hends : EndsWord text) :
    Spells (renderString name ++ ':' :: ' ' :: (renderIn layout v ++ text))
      (.string name :: .mark .colon :: (lexemesOf v ++ ls)) := by
  have hcolon : Spells (':' :: ' ' :: (renderIn layout v ++ text))
      (.mark .colon :: (lexemesOf v ++ ls)) :=
    .mark rfl (.blank rfl (hv.append h hends))
  refine (spells_renderString name).append hcolon ?_
  rintro _ ⟨⟩
  rfl

/-- Further fields spell their lexemes if each of their values does, and so does what follows
them. -/
theorem Spells.renderFields {fields : List (String × Json)}
    (hfields : ∀ field ∈ fields, Spells (renderIn layout field.2) (lexemesOf field.2))
    (h : Spells text ls) (hends : EndsWord text) :
    Spells (renderFields layout fields ++ text) (lexemesOfFields fields ++ ls) := by
  induction fields with
  | nil => exact h
  | cons field fields ih =>
    obtain ⟨hv, hfields⟩ := List.forall_mem_cons.1 hfields
    simp only [Json.renderFields, lexemesOfFields, List.append_assoc, List.cons_append,
      List.nil_append]
    exact .comma layout (.newLine layout
      (hv.field (ih hfields) (endsWord_renderFields fields hends)))

/-- What closes an array or an object stands on a line of its own. -/
theorem Spells.close {m : Mark} (layout : Layout)
    (hmark : scanChar .between c = some (.between, [.mark m])) :
    Spells (layout.newLine ++ [c]) [.mark m] :=
  .newLine layout (.mark hmark .nil)

theorem endsWord_close (layout : Layout) (h : isWordChar c = false) :
    EndsWord (layout.newLine ++ [c]) :=
  endsWord_newLine_append layout (by rintro _ ⟨⟩; exact h)

/-- **A plain value spells its lexemes** in every layout. -/
theorem spells_renderIn {p : Int → Prop} {v : Json} (h : v.IsPlain p) (layout : Layout) :
    Spells (renderIn layout v) (lexemesOf v) := by
  induction h generalizing layout with
  | null => exact spells_name nofun rfl
  | bool b => cases b <;> exact spells_name nofun rfl
  | int _ => exact spells_intText _
  | string s => exact spells_renderString s
  | @array items _ ih =>
    cases items with
    | nil => exact .mark rfl (.mark rfl .nil)
    | cons v items =>
      obtain ⟨hv, hitems⟩ := List.forall_mem_cons.1 ih
      have hends := endsWord_close layout (c := ']') rfl
      simp only [renderIn, lexemesOf, List.append_assoc, List.cons_append]
      refine .mark rfl (.newLine _ ((hv _).append ?_ (endsWord_renderItems items hends)))
      exact .renderItems (fun v hmem => hitems v hmem _) (.close layout rfl) hends
  | @object fields _ _ ih =>
    cases fields with
    | nil => exact .mark rfl (.mark rfl .nil)
    | cons field fields =>
      obtain ⟨hv, hfields⟩ := List.forall_mem_cons.1 ih
      have hends := endsWord_close layout (c := Char.ofNat 0x7d) rfl
      simp only [renderIn, lexemesOf, List.append_assoc, List.cons_append, List.nil_append]
      refine .mark rfl (.newLine _ ((hv _).field ?_ (endsWord_renderFields fields hends)))
      exact .renderFields (fun field hmem => hfields field hmem _) (.close layout rfl) hends

end NavGraph.Json
