import Mathlib.Algebra.Order.Floor.Div
import Mathlib.Data.Finset.Prod
import Mathlib.Data.Finset.Union
import Mathlib.Order.Interval.Finset.Nat
import PinPrinter.Proofs.Glyph

/-! # Scaled patterns

A pattern is scaled to a cell by looking up, for each place of the cell, one place of the pattern.
Seen from the pattern, each of its columns owns an interval of the columns of the cell, each of its
rows an interval of the rows, and an inked place becomes a rectangle of ink. The intervals lie end
to end and differ by one place at most, so that none of them is empty, and no stroke is lost, in a
cell that is at least as large as the pattern.
-/

namespace PinPrinter

/-! ## Patterns as bitmaps -/

namespace Face

/-- The places of a pattern, row by row from the top left corner. -/
def bitmap (pattern : Nat) : Vector Bool (width * height) :=
  Vector.ofFn fun i => inked pattern (i % width) (i / width)

/-- The columns and rows of the inked places of a pattern. -/
def inkedPlaces (pattern : Nat) : Finset (Nat × Nat) :=
  {place ∈ Finset.range width ×ˢ Finset.range height | inked pattern place.1 place.2}

theorem mem_inkedPlaces {pattern : Nat} {place : Nat × Nat} :
    place ∈ inkedPlaces pattern ↔
      (place.1 < width ∧ place.2 < height) ∧ inked pattern place.1 place.2 := by
  rw [inkedPlaces, Finset.mem_filter, Finset.mem_product, Finset.mem_range, Finset.mem_range]

theorem getElem?_bitmap (pattern : Nat) {column row : Nat} (left : column < width)
    (above : row < height) :
    (bitmap pattern)[row * width + column]? = some (inked pattern column row) := by
  rw [bitmap, Vector.getElem?_ofFn, dif_pos (Sheet.index_lt left above)]
  dsimp only
  rw [Sheet.index_mod left, Sheet.index_div left]

/-- Every bitmap of this size is that of a pattern. -/
theorem bitmap_surjective : Function.Surjective bitmap := by
  intro source
  refine ⟨Nat.ofBits fun i : Fin (width * height) => source[width * height - 1 - i], ?_⟩
  apply Vector.ext
  intro index inside
  -- The first place is the highest bit, so the bits are counted from the other end.
  have bit : width * (height - 1 - index / width) + (width - 1 - index % width) =
      width * height - 1 - index := by
    unfold width height at inside ⊢
    omega
  rw [bitmap, Vector.getElem_ofFn, inked]
  dsimp only
  rw [bit, Nat.testBit_ofBits_lt _ _ (by omega)]
  congr 1
  dsimp only
  omega

end Face

namespace Glyph

/-! ## One side of a cell -/

section Share

/-- The places along a side of a cell that show place `i` of a pattern. -/
def share (count size i : Nat) : Finset Nat :=
  {place ∈ Finset.range size | place * count / size = i}

/-- Where the share of place `i` of a pattern begins. -/
def edge (count size i : Nat) : Nat :=
  i * size ⌈/⌉ count

variable {count size i place : Nat}

theorem mem_share : place ∈ share count size i ↔ place < size ∧ place * count / size = i := by
  rw [share, Finset.mem_filter, Finset.mem_range]

/-- No place is looked up beyond the end of a pattern. -/
theorem source_lt (positive : 0 < count) (inside : place < size) : place * count / size < count :=
  Nat.div_lt_of_lt_mul (Nat.mul_lt_mul_of_pos_right inside positive)

theorem edge_le_iff (positive : 0 < count) : edge count size i ≤ place ↔ i * size ≤ count * place :=
  ceilDiv_le_iff_le_mul positive

theorem edge_zero (count size : Nat) : edge count size 0 = 0 := by
  rw [edge, Nat.zero_mul, zero_ceilDiv]

theorem edge_self (positive : 0 < count) (size : Nat) : edge count size count = size :=
  smul_ceilDiv positive size

/-- A share is an interval that ends where the next one begins. -/
theorem share_eq_Ico (within : i < count) :
    share count size i = Finset.Ico (edge count size i) (edge count size (i + 1)) := by
  have positive : 0 < count := Nat.zero_lt_of_lt within
  ext place
  rw [mem_share, Finset.mem_Ico, ← Nat.not_le (a := edge count size (i + 1)), edge_le_iff positive,
    edge_le_iff positive, Nat.not_le, Nat.mul_comm count]
  constructor
  · rintro ⟨inside, shown⟩
    have nonzero : 0 < size := Nat.zero_lt_of_lt inside
    exact ⟨(Nat.le_div_iff_mul_le nonzero).mp shown.ge,
      (Nat.div_lt_iff_lt_mul nonzero).mp (Nat.lt_succ_of_le shown.le)⟩
  · rintro ⟨first, last⟩
    -- Beyond the end of the side, a place beyond the end of the pattern would be shown.
    have inside : place < size := by
      have whole : (i + 1) * size ≤ count * size := Nat.mul_le_mul_right size within
      rw [Nat.mul_comm count] at whole
      exact Nat.lt_of_mul_lt_mul_right (Nat.lt_of_lt_of_le last whole)
    have nonzero : 0 < size := Nat.zero_lt_of_lt inside
    exact ⟨inside, Nat.le_antisymm (Nat.le_of_lt_succ ((Nat.div_lt_iff_lt_mul nonzero).mpr last))
      ((Nat.le_div_iff_mul_le nonzero).mpr first)⟩

theorem edge_add_div_le (positive : 0 < count) (size i : Nat) :
    edge count size i + size / count ≤ edge count size (i + 1) := by
  have next : (i + 1) * size ≤ count * edge count size (i + 1) := (edge_le_iff positive).mp le_rfl
  have quotient : count * (size / count) ≤ size := Nat.mul_div_le size count
  rw [Nat.succ_mul] at next
  -- The difference below is not cut off at zero.
  have reached : size / count ≤ edge count size (i + 1) :=
    Nat.le_of_mul_le_mul_left (by omega) positive
  have before : edge count size i ≤ edge count size (i + 1) - size / count := by
    rw [edge_le_iff positive, Nat.mul_sub]
    omega
  omega

theorem edge_succ_le (positive : 0 < count) (size i : Nat) :
    edge count size (i + 1) ≤ edge count size i + size ⌈/⌉ count := by
  have first : i * size ≤ count * edge count size i := (edge_le_iff positive).mp le_rfl
  have rest : size ≤ count * (size ⌈/⌉ count) := le_smul_ceilDiv positive
  rw [edge_le_iff positive, Nat.succ_mul, Nat.mul_add]
  exact Nat.add_le_add first rest

theorem ceilDiv_le_succ_div (positive : 0 < count) (size : Nat) :
    size ⌈/⌉ count ≤ size / count + 1 :=
  (ceilDiv_le_iff_le_mul positive).mpr (Nat.lt_mul_div_succ size positive).le

theorem card_share (within : i < count) :
    (share count size i).card = size / count ∨ (share count size i).card = size ⌈/⌉ count := by
  have positive : 0 < count := Nat.zero_lt_of_lt within
  have least := edge_add_div_le positive size i
  have greatest := edge_succ_le positive size i
  have near := ceilDiv_le_succ_div positive size
  rw [share_eq_Ico within, Nat.card_Ico]
  omega

/-- Each place of a pattern has its share in a side that is long enough for that, and only there. -/
theorem forall_nonempty_share_iff :
    (∀ i < count, (share count size i).Nonempty) ↔ count ≤ size := by
  constructor
  · intro nonempty
    have onto : Set.SurjOn (fun place => place * count / size) (Finset.range size)
        (Finset.range count) := by
      intro i within
      obtain ⟨place, member⟩ := nonempty i (Finset.mem_range.mp within)
      obtain ⟨inside, shown⟩ := mem_share.mp member
      exact ⟨place, Finset.mem_coe.mpr (Finset.mem_range.mpr inside), shown⟩
    simpa only [Finset.card_range] using Finset.card_le_card_of_surjOn _ onto
  · intro enough i within
    have positive : 0 < count := Nat.zero_lt_of_lt within
    have least := edge_add_div_le positive size i
    have one : 0 < size / count := Nat.div_pos enough positive
    rw [share_eq_Ico within, Finset.nonempty_Ico]
    omega

/-- A side of a cell is shared out among the places of a pattern: each owns an interval, the
intervals lie end to end, and the length of each is the exact one rounded down or up. -/
structure SharedOut (count size : Nat) : Prop where
  first : edge count size 0 = 0
  last : edge count size count = size
  interval {i : Nat} (within : i < count) :
    share count size i = Finset.Ico (edge count size i) (edge count size (i + 1))
  length {i : Nat} (within : i < count) :
    (share count size i).card = size / count ∨ (share count size i).card = size ⌈/⌉ count

theorem sharedOut (positive : 0 < count) (size : Nat) : SharedOut count size where
  first := edge_zero count size
  last := edge_self positive size
  interval := share_eq_Ico
  length := card_share

end Share

/-! ## Rectangles of ink -/

/-- The rectangle of a cell that shows a place of a pattern. -/
def rectangle (width height : Nat) (place : Nat × Nat) : Finset (Nat × Nat) :=
  share Face.width width place.1 ×ˢ share Face.height height place.2

/-- The columns and rows of the places of a glyph that have ink. -/
def inkedPlaces (g : Glyph) : Finset (Nat × Nat) :=
  {place ∈ Finset.range g.width ×ˢ Finset.range g.height | g.coverageAt place.1 place.2 ≠ 0}

/-- What a glyph shows of a pattern: a rectangle of full ink for each of its inked places. -/
structure Tiled (pattern : Nat) (g : Glyph) : Prop where
  columns : SharedOut Face.width g.width
  rows : SharedOut Face.height g.height
  ink : g.inkedPlaces = (Face.inkedPlaces pattern).biUnion (rectangle g.width g.height)
  full {place : Nat × Nat} (inked : place ∈ g.inkedPlaces) : g.coverageAt place.1 place.2 = 255
  disjoint : (Face.inkedPlaces pattern : Set (Nat × Nat)).PairwiseDisjoint
    (rectangle g.width g.height)
  nonempty {place : Nat × Nat} (inked : place ∈ Face.inkedPlaces pattern) :
    (rectangle g.width g.height place).Nonempty

variable {pattern width height column row : Nat} {top : Int} {place : Nat × Nat}

theorem mem_rectangle {shown : Nat × Nat} :
    shown ∈ rectangle width height place ↔
      (shown.1 < width ∧ shown.1 * Face.width / width = place.1) ∧
        shown.2 < height ∧ shown.2 * Face.height / height = place.2 := by
  rw [rectangle, Finset.mem_product, mem_share, mem_share]

theorem mem_inkedPlaces {g : Glyph} :
    place ∈ g.inkedPlaces ↔
      (place.1 < g.width ∧ place.2 < g.height) ∧ g.coverageAt place.1 place.2 ≠ 0 := by
  rw [inkedPlaces, Finset.mem_filter, Finset.mem_product, Finset.mem_range, Finset.mem_range]

/-- A place shows one place of the pattern only. -/
theorem pairwiseDisjoint_rectangle (places : Set (Nat × Nat)) (width height : Nat) :
    places.PairwiseDisjoint (rectangle width height) := by
  intro place _ place' _ other
  refine Finset.disjoint_left.mpr fun shown member member' => other ?_
  obtain ⟨⟨-, column⟩, -, row⟩ := mem_rectangle.mp member
  obtain ⟨⟨-, column'⟩, -, row'⟩ := mem_rectangle.mp member'
  exact Prod.ext (column.symm.trans column') (row.symm.trans row')

theorem nonempty_rectangle (wide : Face.width ≤ width) (high : Face.height ≤ height)
    (inside : place.1 < Face.width ∧ place.2 < Face.height) :
    (rectangle width height place).Nonempty :=
  Finset.Nonempty.product (forall_nonempty_share_iff.mpr wide place.1 inside.1)
    (forall_nonempty_share_iff.mpr high place.2 inside.2)

/-- What stands in a column and a row of a scaled pattern. -/
theorem coverageAt_scaled (left : column < width) (above : row < height) :
    (scaled pattern width height top).coverageAt column row =
      if Face.inked pattern (column * Face.width / width) (row * Face.height / height) then 255
      else 0 := by
  rw [coverageAt, scaled, Array.getElem?_ofFn, dif_pos (Sheet.index_lt left above),
    Option.getD_some]
  dsimp only
  rw [Sheet.index_mod left, Sheet.index_div left]

theorem mem_inkedPlaces_scaled :
    place ∈ (scaled pattern width height top).inkedPlaces ↔
      (place.1 < width ∧ place.2 < height) ∧
        Face.inked pattern (place.1 * Face.width / width) (place.2 * Face.height / height) := by
  rw [mem_inkedPlaces]
  refine and_congr_right fun ⟨(left : place.1 < width), (above : place.2 < height)⟩ => ?_
  rw [coverageAt_scaled left above, ne_eq, ite_eq_right_iff]
  exact ⟨fun inked => by simpa using inked, fun inked blank => absurd (blank inked) (by decide)⟩

theorem inkedPlaces_scaled :
    (scaled pattern width height top).inkedPlaces =
      (Face.inkedPlaces pattern).biUnion (rectangle width height) := by
  ext shown
  rw [mem_inkedPlaces_scaled, Finset.mem_biUnion]
  constructor
  · rintro ⟨⟨left, above⟩, inked⟩
    refine ⟨(shown.1 * Face.width / width, shown.2 * Face.height / height), ?_, ?_⟩
    · exact Face.mem_inkedPlaces.mpr
        ⟨⟨source_lt (by decide) left, source_lt (by decide) above⟩, inked⟩
    · exact mem_rectangle.mpr ⟨⟨left, rfl⟩, above, rfl⟩
  · rintro ⟨place, member, within⟩
    obtain ⟨-, inked⟩ := Face.mem_inkedPlaces.mp member
    obtain ⟨⟨left, column⟩, above, row⟩ := mem_rectangle.mp within
    rw [column, row]
    exact ⟨⟨left, above⟩, inked⟩

theorem tiled_scaled (pattern : Nat) (top : Int) (wide : Face.width ≤ width)
    (high : Face.height ≤ height) : (scaled pattern width height top).Tiled pattern where
  columns := sharedOut (by decide) width
  rows := sharedOut (by decide) height
  ink := inkedPlaces_scaled
  full {place} inked := by
    obtain ⟨⟨left, above⟩, inked⟩ := mem_inkedPlaces_scaled.mp inked
    rw [coverageAt_scaled left above, if_pos inked]
  disjoint := pairwiseDisjoint_rectangle _ width height
  nonempty inked := nonempty_rectangle wide high (Face.mem_inkedPlaces.mp inked).1

/-! ## Inking place by place -/

/-- Ink a place of a cell if the place of the bitmap that it shows is inked; none if one of the two
does not exist. -/
def inkPlace? (source : Vector Bool (Face.width * Face.height)) (width height row : Nat)
    (data : List UInt8) (column : Nat) : Option (List UInt8) :=
  source[row * Face.height / height * Face.width + column * Face.width / width]?.bind fun inked =>
    if inked then overwrite? data ((row * width + column : Nat) : Int) [255] else some data

/-- Ink a row of a cell, place by place. -/
def inkRow? (source : Vector Bool (Face.width * Face.height)) (width height : Nat)
    (data : List UInt8) (row : Nat) : Option (List UInt8) :=
  (List.range width).foldlM (inkPlace? source width height row) data

/-- A bitmap scaled to a cell, for which the places of the cell are inked one after the other; none
if a place that is read or written does not exist. -/
def scaled? (source : Vector Bool (Face.width * Face.height)) (width height : Nat) (top : Int) :
    Option Glyph :=
  ((List.range height).foldlM (inkRow? source width height)
    (List.replicate (width * height) 0)).map fun data =>
      ⟨width, height, 0, top, Float.ofNat width, data.toArray⟩

section Inking

variable (pattern : Nat) (top : Int)

theorem inkPlace?_zeros (left : column < width) (above : row < height) {done : List UInt8}
    (length : done.length = row * width + column) (rest : Nat) :
    inkPlace? (Face.bitmap pattern) width height row (done ++ List.replicate (1 + rest) 0) column =
      some (done ++ [(scaled pattern width height top).coverageAt column row] ++
        List.replicate rest 0) := by
  rw [inkPlace?, Face.getElem?_bitmap pattern (source_lt (by decide) left)
    (source_lt (by decide) above), Option.bind_some, coverageAt_scaled left above]
  split
  · have written := overwrite?_zeros done [255] 0 0 rest
    simpa [← length] using written
  · rw [List.replicate_add, List.append_assoc]
    rfl

theorem inkRow?_zeros (above : row < height) {done : List UInt8}
    (length : done.length = row * width) (rest : Nat) :
    inkRow? (Face.bitmap pattern) width height (done ++ List.replicate (width + rest) 0) row =
      some (done ++ (scaled pattern width height top).row row ++ List.replicate rest 0) := by
  have single : ∀ column < width,
      [(scaled pattern width height top).coverageAt column row].length = 1 := fun _ _ => rfl
  have inked := foldlM_zeros done single (fun column left front rest place =>
    inkPlace?_zeros pattern top left above (by rw [place, length, Nat.mul_one]) rest) rest
  rw [Nat.mul_one, ← List.map_eq_flatMap] at inked
  exact inked

/-- No place is looked up or inked that does not exist. -/
theorem scaled?_bitmap (width height : Nat) :
    scaled? (Face.bitmap pattern) width height top = some (scaled pattern width height top) := by
  have wellFormed : (scaled pattern width height top).WellFormed := Array.size_ofFn
  have rows : (List.range height).flatMap (scaled pattern width height top).row =
      (scaled pattern width height top).coverage.toList :=
    (toList_coverage wellFormed).symm
  have lengths : ∀ row < height, ((scaled pattern width height top).row row).length = width :=
    fun row _ => length_row _ row
  have inked := foldlM_zeros [] lengths (fun row above done rest length =>
    inkRow?_zeros pattern top above (length.trans (Nat.zero_add _)) rest) 0
  rw [rows, List.nil_append, List.nil_append, Nat.add_zero, Nat.mul_comm, List.replicate_zero,
    List.append_nil] at inked
  rw [scaled?, inked, Option.map_some, Array.toArray_toList]
  rfl

end Inking

/-! ## Strokes -/

theorem tiled_upright {font : Font} {dpi : Nat} {c : Char} (known : Face.pattern? c = some pattern)
    (wide : Face.width ≤ font.cellWidth dpi) (high : Face.height ≤ font.lineHeight dpi) :
    (font.upright dpi c).Tiled pattern := by
  unfold Font.upright
  split
  case h_1 unknown => cases unknown.symm.trans known
  case h_2 pattern' known' =>
    cases known'.symm.trans known
    exact tiled_scaled pattern (font.ascent dpi) wide high

/-- Whatever the bitmap and the cell, only places that exist are looked up and inked. In a cell at
least as large as the bitmap, as in every upright character that is set so large, each inked place
is a rectangle of its own, and there is no other ink. -/
theorem scaling_keeps_strokes :
    Function.Surjective Face.bitmap ∧
    (∀ (pattern width height : Nat) (top : Int),
      (∀ column < width, column * Face.width / width < Face.width) ∧
      (∀ row < height, row * Face.height / height < Face.height) ∧
      scaled? (Face.bitmap pattern) width height top = some (scaled pattern width height top) ∧
      (Face.width ≤ width → Face.height ≤ height →
        (scaled pattern width height top).Tiled pattern)) ∧
    ∀ (font : Font) (dpi : Nat) (c : Char) (pattern : Nat), Face.pattern? c = some pattern →
      Face.width ≤ font.cellWidth dpi → Face.height ≤ font.lineHeight dpi →
        (font.upright dpi c).Tiled pattern := by
  refine ⟨Face.bitmap_surjective, fun pattern width height top => ⟨?_, ?_, ?_, ?_⟩, ?_⟩
  · exact fun _ => source_lt (by decide)
  · exact fun _ => source_lt (by decide)
  · exact scaled?_bitmap pattern top width height
  · exact tiled_scaled pattern top
  · exact fun font dpi c pattern => tiled_upright

/-- In a cell one column and one row larger than the pattern, a corner becomes four places. At 180
dots to the inch, the letter A is set in a larger cell than that of its pattern. -/
theorem scaling_keeps_strokes_corner :
    (Face.width ≤ 13 ∧ Face.height ≤ 25 ∧
      (scaled (2 ^ 287) 13 25 20).inkedPlaces = {(0, 0), (1, 0), (0, 1), (1, 1)}) ∧
    Face.pattern? 'A' = some
        0x0000000000001f830c6066066066066067fe606606606606606606606000000000000000 ∧
      Face.width ≤ ({} : Font).cellWidth 180 ∧ Face.height ≤ ({} : Font).lineHeight 180 ∧
      (({} : Font).upright 180 'A').Tiled
        0x0000000000001f830c6066066066066067fe606606606606606606606000000000000000 := by
  have wide : Face.width ≤ ({} : Font).cellWidth 180 := by decide +kernel
  have high : Face.height ≤ ({} : Font).lineHeight 180 := by decide +kernel
  have known : Face.pattern? 'A' = some
      0x0000000000001f830c6066066066066067fe606606606606606606606000000000000000 := by
    decide +kernel
  refine ⟨⟨by decide, by decide, ?_⟩, known, wide, high, ?_⟩
  · obtain ⟨-, -, -, tiled⟩ := scaling_keeps_strokes.2.1 (2 ^ 287) 13 25 20
    have corner : Face.inkedPlaces (2 ^ 287) = {(0, 0)} := by decide +kernel
    rw [(tiled (by decide) (by decide)).ink, corner]
    decide
  · exact scaling_keeps_strokes.2.2 _ 180 'A' _ known wide high

end Glyph

end PinPrinter
