import Mathlib.Data.List.Basic
import PinPrinter.Sheet

/-! # Shifted rows

A glyph leans when each of its rows is moved by a shift of its own. The leaning glyph starts where
the row that is farthest to the left starts, and is wide enough for all of them, so that nothing is
cut off and nothing is added but empty places.
-/

namespace PinPrinter

namespace Glyph

variable {g : Glyph}

/-! ## Rows -/

/-- The coverages of a row. -/
def row (g : Glyph) (row : Nat) : List UInt8 :=
  (List.range g.width).map fun column => g.coverageAt column row

theorem length_row (g : Glyph) (r : Nat) : (g.row r).length = g.width := by
  rw [row, List.length_map, List.length_range]

theorem getElem_row {column r : Nat} (inside : column < (g.row r).length) :
    (g.row r)[column] = g.coverageAt column r := by
  simp only [row, List.getElem_map, List.getElem_range]

/-- A rectangle is read row by row. -/
theorem map_range_mul {α : Type} (f : Nat → α) (width height : Nat) :
    (List.range (width * height)).map f =
      (List.range height).flatMap fun row =>
        (List.range width).map fun column => f (row * width + column) := by
  induction height with
  | zero => rfl
  | succ height ih =>
    rw [Nat.mul_succ, List.range_add, List.map_append, ih, List.range_succ, List.flatMap_append,
      List.flatMap_singleton, List.map_map, Nat.mul_comm]
    rfl

theorem toList_coverage (wellFormed : g.WellFormed) :
    g.coverage.toList = (List.range g.height).flatMap g.row := by
  have cells : g.coverage.toList =
      (List.range (g.width * g.height)).map fun i => g.coverage[i]?.getD 0 := by
    rw [← wellFormed]
    apply List.ext_getElem
    · simp
    · intro i inside _
      rw [Array.length_toList] at inside
      rw [List.getElem_map, List.getElem_range, Array.getElem?_eq_getElem inside]
      rfl
  rw [cells, map_range_mul]
  rfl

/-- The places of a rectangle lie within its coverage. -/
theorem WellFormed.inside (wellFormed : g.WellFormed) {column row : Nat} (left : column < g.width)
    (above : row < g.height) : row * g.width + column < g.coverage.size := by
  rw [wellFormed]
  exact Sheet.index_lt left above

/-! ## The shifts of the rows -/

section Shift

variable (shift : Nat → Int) (rows : Nat)

theorem leastShift_succ :
    leastShift shift (rows + 1) = min (leastShift shift rows) (shift rows) := by
  rw [leastShift, List.range_succ, List.foldl_append]
  rfl

theorem greatestShift_succ :
    greatestShift shift (rows + 1) = max (greatestShift shift rows) (shift rows) := by
  rw [greatestShift, List.range_succ, List.foldl_append]
  rfl

variable {shift rows}

theorem shift_between {row : Nat} (above : row < rows) :
    leastShift shift rows ≤ shift row ∧ shift row ≤ greatestShift shift rows := by
  induction rows with
  | zero => exact absurd above (Nat.not_lt_zero row)
  | succ rows ih =>
    rw [leastShift_succ, greatestShift_succ]
    obtain rfl | earlier := Nat.eq_or_lt_of_le (Nat.le_of_lt_succ above)
    · exact ⟨Int.min_le_right .., Int.le_max_right ..⟩
    · obtain ⟨least, greatest⟩ := ih earlier
      exact ⟨Int.le_trans (Int.min_le_left ..) least, Int.le_trans greatest (Int.le_max_left ..)⟩

/-- What bounds the shifts of the rows bounds the least and the greatest of them. -/
theorem between_of_shift {low high : Int} (some : 0 < rows)
    (bounds : ∀ row < rows, low ≤ shift row ∧ shift row ≤ high) :
    low ≤ leastShift shift rows ∧ greatestShift shift rows ≤ high := by
  induction rows with
  | zero => exact absurd some (Nat.lt_irrefl 0)
  | succ rows ih =>
    rw [leastShift_succ, greatestShift_succ]
    have last := bounds rows (Nat.lt_succ_self rows)
    rcases Nat.eq_zero_or_pos rows with rfl | more
    · exact ⟨Int.le_min.mpr ⟨last.1, last.1⟩, Int.max_le.mpr ⟨last.2, last.2⟩⟩
    · obtain ⟨least, greatest⟩ := ih more fun row above => bounds row (Nat.lt_succ_of_lt above)
      exact ⟨Int.le_min.mpr ⟨least, last.1⟩, Int.max_le.mpr ⟨greatest, last.2⟩⟩

end Shift

/-! ## The leaning glyph -/

/-- The columns before a row in the leaning glyph. -/
def before (g : Glyph) (shift : Nat → Int) (row : Nat) : Nat :=
  (shift row - leastShift shift g.height).toNat

/-- The columns behind a row in the leaning glyph. -/
def behind (g : Glyph) (shift : Nat → Int) (row : Nat) : Nat :=
  (greatestShift shift g.height - shift row).toNat

/-- A row of the leaning glyph. -/
def shiftedRow (g : Glyph) (shift : Nat → Int) (row : Nat) : List UInt8 :=
  List.replicate (g.before shift row) 0 ++ g.row row ++ List.replicate (g.behind shift row) 0

theorem shifted_of_empty (empty : g.width = 0 ∨ g.height = 0) (shift : Nat → Int) :
    g.shifted shift = g :=
  if_pos empty

theorem wellFormed_shifted (wellFormed : g.WellFormed) (shift : Nat → Int) :
    (g.shifted shift).WellFormed := by
  unfold shifted
  split
  · exact wellFormed
  · exact Array.size_ofFn

theorem height_shifted (g : Glyph) (shift : Nat → Int) : (g.shifted shift).height = g.height := by
  unfold shifted
  split <;> rfl

theorem top_shifted (g : Glyph) (shift : Nat → Int) : (g.shifted shift).top = g.top := by
  unfold shifted
  split <;> rfl

theorem advance_shifted (g : Glyph) (shift : Nat → Int) :
    (g.shifted shift).advance = g.advance := by
  unfold shifted
  split <;> rfl

section Solid

variable (solid : ¬ (g.width = 0 ∨ g.height = 0)) (shift : Nat → Int)
include solid

theorem left_shifted : (g.shifted shift).left = g.left + leastShift shift g.height := by
  rw [shifted, if_neg solid]

theorem width_shifted {row : Nat} (above : row < g.height) :
    (g.shifted shift).width = g.before shift row + g.width + g.behind shift row := by
  obtain ⟨least, greatest⟩ : leastShift shift g.height ≤ shift row ∧ _ := shift_between above
  rw [shifted, if_neg solid, before, behind]
  dsimp only
  omega

/-- What stands in a column and a row of the leaning glyph. -/
theorem coverageAt_shifted {column row : Nat} (left : column < (g.shifted shift).width)
    (above : row < g.height) :
    (g.shifted shift).coverageAt column row =
      if g.before shift row ≤ column ∧ column < g.before shift row + g.width then
        g.coverageAt (column - g.before shift row) row
      else 0 := by
  obtain ⟨least, -⟩ : leastShift shift g.height ≤ shift row ∧ _ := shift_between above
  obtain ⟨offset, moved⟩ := Int.eq_ofNat_of_zero_le (Int.sub_nonneg_of_le least)
  have before : g.before shift row = offset := by rw [before, moved, Int.toNat_natCast]
  rw [before]
  rw [shifted, if_neg solid] at left ⊢
  dsimp only at left ⊢
  rw [coverageAt]
  dsimp only
  generalize g.width + (greatestShift shift g.height - leastShift shift g.height).toNat = width
    at left
  rw [Array.getElem?_ofFn, dif_pos (Sheet.index_lt left above), Option.getD_some]
  dsimp only
  rw [Sheet.index_div left, Sheet.index_mod left, moved]
  have column_eq : ((column : Int) - offset).toNat = column - offset := by omega
  rw [column_eq]
  exact if_congr (by omega) rfl rfl

theorem row_shifted {row : Nat} (above : row < g.height) :
    (g.shifted shift).row row = g.shiftedRow shift row := by
  have width := width_shifted solid shift above
  apply List.ext_getElem
  · simp [length_row, shiftedRow, width, Nat.add_assoc]
  · intro column left _
    rw [length_row] at left
    rw [getElem_row, coverageAt_shifted solid shift left above]
    simp only [shiftedRow, List.getElem_append, List.length_append, List.length_replicate,
      length_row, List.getElem_replicate, getElem_row]
    split_ifs <;> first | rfl | omega

end Solid

/-- What a glyph is after the shifts of its rows. -/
structure Moved (g : Glyph) (shift : Nat → Int) (moved : Glyph) : Prop where
  wellFormed : moved.WellFormed
  height_eq : moved.height = g.height
  top_eq : moved.top = g.top
  advance_eq : moved.advance = g.advance
  /-- Every place of the glyph is moved by the shift of its row, and keeps its coverage. -/
  kept {row : Nat} (above : row < g.height) {column : Nat} (left : column < g.width) :
    ∃ column' < moved.width, moved.left + column' = g.left + column + shift row ∧
      moved.coverageAt column' row = g.coverageAt column row
  /-- There is nothing in the other places. -/
  clear {row : Nat} (above : row < g.height) {column' : Nat} (left : column' < moved.width)
    (other : ∀ column < g.width, moved.left + column' ≠ g.left + column + shift row) :
    moved.coverageAt column' row = 0
  /-- The coverages are the same ones in the same order, but for empty places. -/
  coverage : moved.coverage.toList.filter (· != 0) = g.coverage.toList.filter (· != 0)

theorem filter_shiftedRow (g : Glyph) (shift : Nat → Int) (row : Nat) :
    (g.shiftedRow shift row).filter (· != 0) = (g.row row).filter (· != 0) := by
  simp [shiftedRow]

theorem filter_coverage_shifted (wellFormed : g.WellFormed) (shift : Nat → Int) :
    (g.shifted shift).coverage.toList.filter (· != 0) = g.coverage.toList.filter (· != 0) := by
  by_cases empty : g.width = 0 ∨ g.height = 0
  · rw [shifted_of_empty empty]
  · rw [toList_coverage (wellFormed_shifted wellFormed shift), toList_coverage wellFormed,
      height_shifted, List.filter_flatMap, List.filter_flatMap]
    apply List.flatMap_congr
    intro row member
    rw [row_shifted empty shift (List.mem_range.mp member), filter_shiftedRow]

theorem moved_shifted (wellFormed : g.WellFormed) (shift : Nat → Int) :
    g.Moved shift (g.shifted shift) where
  wellFormed := wellFormed_shifted wellFormed shift
  height_eq := height_shifted g shift
  top_eq := top_shifted g shift
  advance_eq := advance_shifted g shift
  kept {row} above {column} left := by
    have solid : ¬ (g.width = 0 ∨ g.height = 0) := by omega
    have width := width_shifted solid shift above
    have inside : g.before shift row + column < (g.shifted shift).width := by omega
    refine ⟨g.before shift row + column, inside, ?_, ?_⟩
    · obtain ⟨least, -⟩ : leastShift shift g.height ≤ shift row ∧ _ := shift_between above
      rw [left_shifted solid, before]
      omega
    · rw [coverageAt_shifted solid shift inside above, if_pos (by omega), Nat.add_sub_cancel_left]
  clear {row} above {column'} left other := by
    by_cases empty : g.width = 0 ∨ g.height = 0
    · rw [shifted_of_empty empty] at left
      omega
    · rw [coverageAt_shifted empty shift left above, if_neg]
      rintro ⟨first, last⟩
      obtain ⟨least, -⟩ : leastShift shift g.height ≤ shift row ∧ _ := shift_between above
      refine other (column' - g.before shift row) (by omega) ?_
      rw [left_shifted empty]
      unfold before at first ⊢
      omega
  coverage := filter_coverage_shifted wellFormed shift

/-! ## Copying rows -/

/-- Some bytes from a place on; none if they go beyond the end. -/
def slice? (data : List UInt8) (start count : Nat) : Option (List UInt8) :=
  if start + count ≤ data.length then some ((data.drop start).take count) else none

/-- Write bytes over those from a place on; none if they are not all there. -/
def overwrite? (data : List UInt8) (start : Int) (part : List UInt8) : Option (List UInt8) :=
  if 0 ≤ start ∧ start + part.length ≤ data.length then
    some (data.take start.toNat ++ part ++ data.drop (start.toNat + part.length))
  else none

/-- Copy a row to its place in the coverage of the leaning glyph. -/
def copyRow? (g : Glyph) (shift : Nat → Int) (width : Nat) (data : List UInt8) (row : Nat) :
    Option (List UInt8) :=
  (slice? g.coverage.toList (row * g.width) g.width).bind fun line =>
    overwrite? data (row * width + (shift row - leastShift shift g.height)) line

/-- The leaning glyph, for which each row is copied into empty places; none if a place that is read
or written does not exist. -/
def copied? (g : Glyph) (shift : Nat → Int) : Option Glyph :=
  if g.width = 0 ∨ g.height = 0 then some g
  else
    let least := leastShift shift g.height
    let width := g.width + (greatestShift shift g.height - least).toNat
    ((List.range g.height).foldlM (g.copyRow? shift width)
      (List.replicate (width * g.height) 0)).map fun data =>
        { g with width := width, left := g.left + least, coverage := data.toArray }

theorem slice?_row (wellFormed : g.WellFormed) {row : Nat} (above : row < g.height) :
    slice? g.coverage.toList (row * g.width) g.width = some (g.row row) := by
  have within : row * g.width + g.width ≤ g.coverage.toList.length := by
    rw [Array.length_toList, wellFormed, Nat.mul_comm g.width, ← Nat.succ_mul]
    exact Nat.mul_le_mul_right _ above
  rw [slice?, if_pos within]
  refine congrArg some (List.ext_getElem ?_ ?_)
  · rw [length_row, List.length_take, List.length_drop]
    omega
  · intro column inside inside'
    rw [length_row] at inside'
    have place := wellFormed.inside inside' above
    rw [getElem_row, List.getElem_take, List.getElem_drop, coverageAt,
      Array.getElem?_eq_getElem place]
    rfl

/-- A part is written between zeros. -/
theorem overwrite?_zeros (done part : List UInt8) (before behind rest : Nat) :
    overwrite? (done ++ List.replicate (before + part.length + behind + rest) 0)
      ((done.length : Int) + before) part =
      some (done ++ (List.replicate before 0 ++ part ++ List.replicate behind 0) ++
        List.replicate rest 0) := by
  have start : ((done.length : Int) + before).toNat = done.length + before := by omega
  rw [overwrite?, start, if_pos]
  · have later : before + part.length + behind + rest - (before + part.length) = behind + rest := by
      omega
    rw [List.take_length_add_append, Nat.add_assoc done.length, List.drop_length_add_append,
      List.take_replicate, List.drop_replicate, Nat.min_eq_left (by omega), later,
      List.replicate_add]
    simp only [List.append_assoc]
  · rw [List.length_append, List.length_replicate]
    omega

/-- A loop that puts parts of one length over zeros, one behind the other. -/
theorem foldlM_zeros {step : List UInt8 → Nat → Option (List UInt8)} {part : Nat → List UInt8}
    (front : List UInt8) {length parts : Nat} (lengths : ∀ i < parts, (part i).length = length)
    (puts : ∀ i < parts, ∀ done rest, done.length = front.length + i * length →
      step (done ++ List.replicate (length + rest) 0) i =
        some (done ++ part i ++ List.replicate rest 0)) (rest : Nat) :
    (List.range parts).foldlM step (front ++ List.replicate (parts * length + rest) 0) =
      some (front ++ (List.range parts).flatMap part ++ List.replicate rest 0) := by
  induction parts generalizing rest with
  | zero => simp
  | succ parts ih =>
    have earlier := ih (fun i before => lengths i (Nat.lt_succ_of_lt before))
      (fun i before => puts i (Nat.lt_succ_of_lt before)) (length + rest)
    have room : (parts + 1) * length + rest = parts * length + (length + rest) := by
      rw [Nat.succ_mul, Nat.add_assoc]
    have done : (front ++ (List.range parts).flatMap part).length =
        front.length + parts * length := by
      have each : ∀ i ∈ List.range parts, (part i).length = length := fun i member =>
        lengths i (Nat.lt_succ_of_lt (List.mem_range.mp member))
      rw [List.length_append, List.length_flatMap, List.map_congr_left each, List.map_const',
        List.sum_replicate_nat, List.length_range]
    rw [room, List.range_succ, List.foldlM_append, earlier, List.flatMap_append,
      List.flatMap_singleton, ← List.append_assoc front]
    exact congrArg (·.bind some) (puts parts (Nat.lt_succ_self parts) _ rest done)

theorem length_shiftedRow (solid : ¬ (g.width = 0 ∨ g.height = 0)) (shift : Nat → Int) {row : Nat}
    (above : row < g.height) : (g.shiftedRow shift row).length = (g.shifted shift).width := by
  rw [← row_shifted solid shift above, length_row]

theorem copyRow?_zeros (wellFormed : g.WellFormed) (solid : ¬ (g.width = 0 ∨ g.height = 0))
    (shift : Nat → Int) {row : Nat} (above : row < g.height) {done : List UInt8}
    (length : done.length = row * (g.shifted shift).width) (rest : Nat) :
    g.copyRow? shift (g.shifted shift).width
        (done ++ List.replicate ((g.shifted shift).width + rest) 0) row =
      some (done ++ g.shiftedRow shift row ++ List.replicate rest 0) := by
  obtain ⟨least, -⟩ : leastShift shift g.height ≤ shift row ∧ _ := shift_between above
  have width := width_shifted solid shift above
  have place : (row : Int) * (g.shifted shift).width + (shift row - leastShift shift g.height) =
      done.length + g.before shift row := by
    rw [length, before, Int.toNat_of_nonneg (Int.sub_nonneg_of_le least), Int.natCast_mul]
  rw [copyRow?, slice?_row wellFormed above, Option.bind_some, place, width, ← g.length_row row,
    overwrite?_zeros]
  rfl

/-- No row is copied from or to a place that does not exist. -/
theorem copied?_eq (wellFormed : g.WellFormed) (shift : Nat → Int) :
    g.copied? shift = some (g.shifted shift) := by
  by_cases empty : g.width = 0 ∨ g.height = 0
  · rw [copied?, if_pos empty, shifted_of_empty empty]
  · have copied := foldlM_zeros [] (fun _ => length_shiftedRow empty shift)
      (fun row above done rest length => copyRow?_zeros wellFormed empty shift above
        (length.trans (Nat.zero_add _)) rest) 0
    have rows : (List.range g.height).flatMap (g.shiftedRow shift) =
        (g.shifted shift).coverage.toList := by
      rw [toList_coverage (wellFormed_shifted wellFormed shift), height_shifted]
      exact List.flatMap_congr fun row member =>
        (row_shifted empty shift (List.mem_range.mp member)).symm
    rw [rows, List.nil_append, List.nil_append, Nat.add_zero, Nat.mul_comm, List.replicate_zero,
      List.append_nil] at copied
    unfold shifted at copied ⊢
    rw [if_neg empty] at copied ⊢
    rw [copied?, if_neg empty]
    dsimp only at copied ⊢
    rw [copied]
    simp

end Glyph

end PinPrinter
