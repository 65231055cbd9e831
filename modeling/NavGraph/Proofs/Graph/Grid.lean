import Mathlib.Algebra.Order.Floor.Div
import NavGraph.Graph.Grid

/-!
# A grid without overlaps

Nodes are placed by their indices, and an id that comes again moves to its later place.  So an id
stands in the cell of the last index at which it comes, different ids stand in cells of different
indices, and an index gives back no cell of another one: its column is the remainder and its row the
quotient by the same width.

The width is the least one whose square holds all nodes.  That a narrower square does not hold them
is what keeps the grid from being more than one row short of a square.

## Main definitions

* `rows` - the height of the grid for a number of nodes
* `GridStyle.cell` - the position in a column and a row
* `Tiles` - positions for ids, in cells of a grid, that do not overlap

## Main statements

* `isLeast_columns` - the width of the grid
* `rows_eq_or` - the height of the grid is its width, or one less
* `lookup_layout` - an id stands in the cell of the last index at which it comes
* `layout_tiles` - the grid never overlaps
-/

namespace NavGraph

/-! ### Tables of pairs -/

namespace Assoc

variable {κ α : Type} [DecidableEq κ] {key : κ} {value : α} {earlier later : List (κ × α)}

/-- What other keys get is nothing to a key. -/
theorem lookup_foldl_put {table : List (κ × α)} (h : ∀ p ∈ later, key ≠ p.1) :
    (later.foldl (fun table p => put p.1 p.2 table) table).lookup key = table.lookup key := by
  induction later generalizing table with
  | nil => rfl
  | cons p later ih =>
    obtain ⟨hp, hlater⟩ := List.forall_mem_cons.1 h
    rw [List.foldl_cons, ih hlater, lookup_put, if_neg hp]

/-- **The last pair of a key counts.** -/
theorem lookup_ofList (h : ∀ p ∈ later, key ≠ p.1) :
    (ofList (earlier ++ (key, value) :: later)).lookup key = some value := by
  rw [ofList, List.foldl_append, List.foldl_cons, lookup_foldl_put h, lookup_put, if_pos rfl]

/-- Keys of a table are keys of the pairs that it was made of. -/
theorem lookup_ofList_eq_none {pairs : List (κ × α)} (h : ∀ p ∈ pairs, key ≠ p.1) :
    (ofList pairs).lookup key = none := by
  rw [ofList, lookup_foldl_put h, List.lookup_nil]

end Assoc

namespace Graph

/-! ### The size of a grid -/

/-- How many rows so many nodes take. -/
def rows (count : Nat) : Nat := count ⌈/⌉ columns count

variable {count index i j : Nat}

/-- **The width of a grid is the least whose square holds all nodes.** -/
theorem isLeast_columns (count : Nat) : IsLeast {c | count ≤ c * c} (columns count) := by
  have hfound : ((List.range (count + 1)).find? fun c => count ≤ c * c).isSome := by
    refine List.find?_isSome.2 ⟨count, List.self_mem_range_succ, ?_⟩
    exact decide_eq_true (Nat.le_mul_self count)
  obtain ⟨c, hc⟩ := Option.isSome_iff_exists.1 hfound
  obtain ⟨hholds, -, hnone⟩ := List.find?_range_eq_some.1 hc
  rw [columns, hc, Option.getD_some]
  refine ⟨of_decide_eq_true hholds, fun d hd => Nat.le_of_not_lt fun hlt => ?_⟩
  have hholds : count ≤ d * d := hd
  simpa [hholds] using hnone d hlt

theorem le_columns_mul_columns (count : Nat) : count ≤ columns count * columns count :=
  (isLeast_columns count).1

theorem columns_pos (h : index < count) : 0 < columns count := by
  refine Nat.pos_of_ne_zero fun hzero => ?_
  have := le_columns_mul_columns count
  rw [hzero] at this
  omega

/-- **A grid is as high as it is wide, or one row less.** -/
theorem rows_eq_or (h : 0 < count) :
    rows count = columns count ∨ rows count + 1 = columns count := by
  have hpos := columns_pos h
  have hle : rows count ≤ columns count :=
    (ceilDiv_le_iff_le_mul hpos).2 (le_columns_mul_columns count)
  obtain ⟨w, hw⟩ := Nat.exists_eq_add_one.2 hpos
  have hholds : count ≤ columns count * rows count := (ceilDiv_le_iff_le_mul hpos).1 le_rfl
  rw [hw] at hholds
  -- A square that is one column narrower is too small, and two rows less would fit into it.
  have hsmall : w * w < count := Nat.lt_of_not_le fun hsquare => by
    have := (isLeast_columns count).2 hsquare
    omega
  by_contra hneither
  have hrows : rows count + 1 ≤ w := by omega
  have hfits : count ≤ w * w := calc
    count ≤ (w + 1) * rows count := hholds
    _ = w * rows count + rows count := Nat.succ_mul w _
    _ ≤ w * rows count + w := Nat.add_le_add_left (Nat.le_of_succ_le hrows) _
    _ = w * (rows count + 1) := rfl
    _ ≤ w * w := Nat.mul_le_mul_left w hrows
  exact absurd hfits (Nat.not_le.2 hsmall)

/-- The index of a node gives a column of the grid. -/
theorem mod_lt_columns (h : index < count) : index % columns count < columns count :=
  Nat.mod_lt _ (columns_pos h)

/-- The index of a node gives a row of the grid. -/
theorem div_lt_rows (h : index < count) : index / columns count < rows count := by
  refine Nat.lt_of_not_le fun hle => ?_
  have hholds := (ceilDiv_le_iff_le_mul (columns_pos h)).1 hle
  have := Nat.mul_div_le index (columns count)
  omega

/-! ### Cells -/

variable {style : GridStyle} {width : Nat} {ids earlier later : List String} {id : String}

/-- The position in a column and a row. -/
def GridStyle.cell (style : GridStyle) (column row : Nat) : Position where
  x := style.origin + column * style.columnWidth
  y := style.origin + row * style.rowHeight

/-- Where columns and rows have a width, a position belongs to one cell. -/
theorem GridStyle.cell_inj {column row column' row' : Nat} (hcolumns : style.columnWidth ≠ 0)
    (hrows : style.rowHeight ≠ 0) (h : style.cell column row = style.cell column' row') :
    column = column' ∧ row = row' := by
  obtain ⟨hx, hy⟩ := Position.mk.inj h
  constructor
  · exact Int.ofNat_inj.1 ((Int.mul_eq_mul_right_iff hcolumns).1 (Int.add_left_cancel hx))
  · exact Int.ofNat_inj.1 ((Int.mul_eq_mul_right_iff hrows).1 (Int.add_left_cancel hy))

/-- **Different indices have different positions**: column and row give the index back. -/
theorem cellPosition_inj (hcolumns : style.columnWidth ≠ 0) (hrows : style.rowHeight ≠ 0)
    (h : cellPosition style width i = cellPosition style width j) : i = j := by
  obtain ⟨hmod, hdiv⟩ := GridStyle.cell_inj hcolumns hrows h
  calc i = width * (i / width) + i % width := (Nat.div_add_mod i width).symm
    _ = width * (j / width) + j % width := by rw [hmod, hdiv]
    _ = j := Nat.div_add_mod j width

/-! ### Layouts -/

/-- **An id stands in the cell of the last index at which it comes.** -/
theorem lookup_layout (h : id ∉ later) :
    (layout style (earlier ++ id :: later)).lookup id =
      some (cellPosition style (columns (earlier ++ id :: later).length) earlier.length) := by
  rw [layout, List.mapIdx_append, List.mapIdx_cons]
  simp only [Nat.zero_add]
  refine Assoc.lookup_ofList fun p hp => ?_
  obtain ⟨k, hk, rfl⟩ := List.mem_mapIdx.1 hp
  exact fun heq => h (heq ▸ List.getElem_mem hk)

/-- An id of the list stands in the cell of an index at which it comes. -/
theorem exists_lookup_layout (style : GridStyle) (h : id ∈ ids) : ∃ i, ids[i]? = some id ∧
    (layout style ids).lookup id = some (cellPosition style (columns ids.length) i) := by
  obtain ⟨later, earlier, hsplit, hlater⟩ := List.eq_append_cons_of_mem (List.mem_reverse.2 h)
  have hids : ids = earlier.reverse ++ id :: later.reverse := by
    rw [← List.reverse_reverse ids, hsplit, List.reverse_append, List.reverse_cons,
      List.append_assoc, List.singleton_append]
  rw [hids]
  refine ⟨earlier.reverse.length, ?_, lookup_layout (mt List.mem_reverse.1 hlater)⟩
  rw [List.getElem?_append_right le_rfl, Nat.sub_self, List.getElem?_cons_zero]

theorem lookup_layout_eq_none (h : id ∉ ids) : (layout style ids).lookup id = none := by
  refine Assoc.lookup_ofList_eq_none fun p hp => ?_
  obtain ⟨k, hk, rfl⟩ := List.mem_mapIdx.1 hp
  exact fun heq => h (heq ▸ List.getElem_mem hk)

/-- Every id of the list has a position, and nothing else has one. -/
theorem isSome_lookup_layout (style : GridStyle) :
    ((layout style ids).lookup id).isSome ↔ id ∈ ids := by
  constructor
  · intro hsome
    by_contra hmem
    rw [lookup_layout_eq_none hmem] at hsome
    cases hsome
  · intro hmem
    obtain ⟨i, -, hi⟩ := exists_lookup_layout style hmem
    rw [hi]
    rfl

/-- **Positions for ids in a grid without overlaps.** -/
structure Tiles (style : GridStyle) (width height : Nat) (ids : List String)
    (positions : List (String × Position)) : Prop where
  /-- Every id has a position, and nothing else has one. -/
  placed : ∀ id, (positions.lookup id).isSome ↔ id ∈ ids
  /-- Different ids have different positions. -/
  apart : ∀ id ∈ ids, ∀ id' ∈ ids, id ≠ id' → positions.lookup id ≠ positions.lookup id'
  /-- A position is a cell of the grid. -/
  inside : ∀ id ∈ ids, ∃ column < width, ∃ row < height,
    positions.lookup id = some (style.cell column row)

/-- **The grid never overlaps**, however often an id comes, and it is a square or one row short of
one. -/
theorem layout_tiles (style : GridStyle) (ids : List String) (hids : ids ≠ [])
    (hcolumns : style.columnWidth ≠ 0) (hrows : style.rowHeight ≠ 0) :
    IsLeast {c | ids.length ≤ c * c} (columns ids.length) ∧
      (rows ids.length = columns ids.length ∨ rows ids.length + 1 = columns ids.length) ∧
      Tiles style (columns ids.length) (rows ids.length) ids (layout style ids) := by
  refine ⟨isLeast_columns _, rows_eq_or (List.length_pos_iff.2 hids), fun id =>
    isSome_lookup_layout style, fun id hid id' hid' hne heq => ?_, fun id hid => ?_⟩
  · obtain ⟨i, hi, hposition⟩ := exists_lookup_layout style hid
    obtain ⟨j, hj, hposition'⟩ := exists_lookup_layout style hid'
    rw [hposition, hposition', Option.some.injEq] at heq
    obtain rfl := cellPosition_inj hcolumns hrows heq
    exact hne (Option.some.inj (hi.symm.trans hj))
  · obtain ⟨i, hi, hposition⟩ := exists_lookup_layout style hid
    obtain ⟨hlt, -⟩ := List.getElem?_eq_some_iff.1 hi
    exact ⟨_, mod_lt_columns hlt, _, div_lt_rows hlt, hposition⟩

/-- Five nodes of which two have the same id. -/
theorem layout_tiles_shop : Tiles ⟨-320, 280, 100⟩ (columns 5) (rows 5)
    ["home-0", "cart-0", "home-0", "login-0", "cart-1"]
    (layout ⟨-320, 280, 100⟩ ["home-0", "cart-0", "home-0", "login-0", "cart-1"]) :=
  (layout_tiles ⟨-320, 280, 100⟩ ["home-0", "cart-0", "home-0", "login-0", "cart-1"] (by decide)
    (by decide) (by decide)).2.2

/-- The id that comes again has left its first place. -/
example : layout ⟨-320, 280, 100⟩ ["home-0", "cart-0", "home-0", "login-0", "cart-1"] =
    [("home-0", ⟨-540, 100⟩), ("cart-0", ⟨-220, 100⟩), ("login-0", ⟨100, 380⟩),
      ("cart-1", ⟨-220, 380⟩)] := by
  decide

end Graph

end NavGraph
