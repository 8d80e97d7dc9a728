import Mathlib.Logic.Basic
import PinPrinter.Proofs.Drawing

/-! # Drawing, pixel by pixel

A drawing operation visits places in rows and columns, and skips those that are not on the sheet. No
two visits of a glyph, a box or a rule fall on the same place, so what becomes of a pixel depends on
its own place and value alone: `Sheet.Changed` says how. Rows do not overlap in a sheet, so nothing
that leaves a row at one side comes back in the next one.
-/

namespace PinPrinter

/-! ## Parts of a pixel -/

namespace Pixel

/-- The colour bits of a pixel. -/
def band (pixel : UInt8) : UInt8 :=
  pixel >>> 5

/-- The intensity of a pixel, 31 at most. -/
def intensity (pixel : UInt8) : Nat :=
  (pixel &&& intensityMask).toNat

/-- The pixel of some colour bits and an intensity. -/
def ofParts (band : UInt8) (intensity : Nat) : UInt8 :=
  UInt8.ofNat (32 * band.toNat + intensity)

theorem intensity_eq (pixel : UInt8) : intensity pixel = pixel.toNat % 32 := by
  rw [intensity, UInt8.toNat_and]
  exact Nat.and_two_pow_sub_one_eq_mod pixel.toNat 5

theorem toNat_band (pixel : UInt8) : (band pixel).toNat = pixel.toNat / 32 := by
  rw [band, UInt8.toNat_shiftRight]
  exact Nat.shiftRight_eq_div_pow pixel.toNat 5

theorem intensity_lt (pixel : UInt8) : intensity pixel < 32 := by
  rw [intensity_eq]
  exact Nat.mod_lt _ (by decide)

theorem ofParts_parts (pixel : UInt8) : ofParts (band pixel) (intensity pixel) = pixel := by
  rw [ofParts, toNat_band, intensity_eq, Nat.div_add_mod, UInt8.ofNat_toNat]

theorem band_lt (pixel : UInt8) : (band pixel).toNat < 8 := by
  have bound := pixel.toNat_lt
  rw [toNat_band]
  omega

theorem band_ofParts {colours : UInt8} {amount : Nat} (few : colours.toNat < 8)
    (small : amount < 32) : band (ofParts colours amount) = colours := by
  apply UInt8.toNat_inj.mp
  rw [toNat_band, ofParts, UInt8.toNat_ofNat']
  omega

theorem intensity_ofParts {colours : UInt8} {amount : Nat} (small : amount < 32) :
    intensity (ofParts colours amount) = amount := by
  rw [intensity_eq, ofParts, UInt8.toNat_ofNat']
  omega

@[simp] theorem band_or (p q : UInt8) : band (p ||| q) = band p ||| band q :=
  UInt8.shiftRight_or

@[simp] theorem intensity_or (p q : UInt8) : intensity (p ||| q) = intensity p ||| intensity q := by
  simp only [intensity, UInt8.toNat_and, UInt8.toNat_or, Nat.and_or_distrib_right]

@[simp] theorem band_bits (ink : Ink) : band ink.bits = ink.band := by
  cases ink <;> rfl

@[simp] theorem intensity_bits (ink : Ink) : intensity ink.bits = 0 := by
  cases ink <;> rfl

theorem or_full {amount : Nat} (small : amount < 32) : amount ||| 31 = 31 := by
  decide +revert

/-- What fits into the intensity does not reach the colour bits. -/
theorem band_add {p q : UInt8} (room : intensity p + q.toNat ≤ 31) : band (p + q) = band p := by
  have bound := p.toNat_lt
  rw [intensity_eq] at room
  apply UInt8.toNat_inj.mp
  rw [toNat_band, toNat_band, UInt8.toNat_add]
  omega

theorem intensity_add {p q : UInt8} (room : intensity p + q.toNat ≤ 31) :
    intensity (p + q) = intensity p + q.toNat := by
  have bound := p.toNat_lt
  rw [intensity_eq] at room ⊢
  rw [intensity_eq, UInt8.toNat_add]
  omega

/-- A coverage is reduced to what an intensity can be. -/
theorem reduced_lt (coverage : UInt8) : (coverage >>> 3).toNat < 32 := by
  have bound := coverage.toNat_lt
  have eighth : (coverage >>> 3).toNat = coverage.toNat / 8 := by
    rw [UInt8.toNat_shiftRight]
    exact Nat.shiftRight_eq_div_pow coverage.toNat 3
  omega

end Pixel

namespace Sheet

open Pixel

/-- Full ink that joins a pixel makes its intensity full. -/
theorem or_full_eq (ink : Ink) (old : UInt8) :
    old ||| (ink.bits ||| intensityMask) = ofParts (band old ||| ink.band) 31 := by
  have mask : band intensityMask = 0 ∧ intensity intensityMask = 31 := by decide
  rw [← ofParts_parts (old ||| (ink.bits ||| intensityMask))]
  simp only [band_or, band_bits, mask, UInt8.or_zero, intensity_or, intensity_bits, Nat.zero_or,
    or_full (intensity_lt old)]

/-- Ink that joins a pixel adds its colour bits, and its intensity up to full ink. -/
theorem joinInk_eq (ink : Ink) (coverage old : UInt8) :
    joinInk ink coverage old =
      ofParts (band old ||| ink.band) (min 31 (intensity old + (coverage >>> 3).toNat)) := by
  have small := intensity_lt old
  have reduced := reduced_lt coverage
  have saturates : intensityMask < (old &&& intensityMask) + coverage >>> 3 ↔
      31 < intensity old + (coverage >>> 3).toNat := by
    rw [UInt8.lt_iff_toNat_lt, UInt8.toNat_add]
    change 31 < (intensity old + _) % 256 ↔ _
    omega
  simp only [joinInk, saturates]
  split
  case isTrue more => rw [or_full_eq, Nat.min_eq_left (Nat.le_of_lt more)]
  case isFalse room =>
    have fits := Nat.le_of_not_lt room
    rw [← ofParts_parts (old + coverage >>> 3 ||| ink.bits), Nat.min_eq_right fits]
    simp only [band_or, band_bits, intensity_or, intensity_bits, Nat.or_zero, band_add fits,
      intensity_add fits]

/-! ## Places -/

/-- Rows do not overlap: an index belongs to one place. -/
theorem index_inj {width column column' row row' : Nat} (on : column < width)
    (on' : column' < width) (same : row * width + column = row' * width + column') :
    column = column' ∧ row = row' := by
  have columns := congrArg (· % width) same
  have rows := congrArg (· / width) same
  simp only [index_mod on, index_mod on'] at columns
  simp only [index_div on, index_div on'] at rows
  exact ⟨columns, rows⟩

/-- The places that a sheet has. -/
def On (s : Sheet) (x y : Int) : Prop :=
  (0 ≤ x ∧ x < s.width) ∧ 0 ≤ y ∧ y < s.height

theorem get?_of_not_on {s : Sheet} {x y : Int} (off : ¬ s.On x y) : s.get? x y = none :=
  congrArg (Option.map fun i => s.pixels[i]) (dif_neg off)

theorem get?_modify (s : Sheet) (x y : Int) (f : UInt8 → UInt8) (px py : Int) :
    (s.modify x y f).get? px py =
      (s.get? px py).map fun old => if px = x ∧ py = y then f old else old := by
  obtain ⟨width, height, dpi, pixels⟩ := s
  by_cases seen : (0 ≤ px ∧ px < width) ∧ 0 ≤ py ∧ py < height
  case neg =>
    have off : (Sheet.mk width height dpi pixels).get? px py = none := get?_of_not_on seen
    rw [off, Option.map_none]
    simp only [modify]
    split <;> exact get?_of_not_on seen
  case pos =>
    simp only [modify]
    split
    case isFalse off =>
      have other : ¬ (px = x ∧ py = y) := by
        rintro ⟨rfl, rfl⟩
        exact off seen
      simp only [if_neg other, Option.map_id']
    case isTrue on =>
      simp only [get?, index?, dif_pos seen, Option.map_some, Fin.getElem_fin, Vector.getElem_set]
      by_cases hit : px = x ∧ py = y
      · obtain ⟨rfl, rfl⟩ := hit
        simp only [if_true, and_self]
      · have other : ¬ y.toNat * width + x.toNat = py.toNat * width + px.toNat := by
          intro same
          obtain ⟨columns, rows⟩ := index_inj (by omega) (by omega) same
          omega
        rw [if_neg other, if_neg hit]

/-- Two sheets are the same if they are of one size and agree at every place. -/
theorem ext_get? {s t : Sheet} (size : t.clear = s.clear)
    (pixel : ∀ x y, t.get? x y = s.get? x y) : t = s := by
  obtain ⟨width, height, dpi, pixels⟩ := s
  obtain ⟨width', height', dpi', pixels'⟩ := t
  obtain rfl : width' = width := congrArg Sheet.width size
  obtain rfl : height' = height := congrArg Sheet.height size
  obtain rfl : dpi' = dpi := congrArg Sheet.dpi size
  congr 1
  apply Vector.ext
  intro index inside
  have positive : 0 < width' := Nat.pos_of_mul_pos_right (Nat.zero_lt_of_lt inside)
  have column : index % width' < width' := Nat.mod_lt _ positive
  have row : index / width' < height' := Nat.div_lt_of_lt_mul inside
  have place : index / width' * width' + index % width' = index := by
    rw [Nat.mul_comm, Nat.div_add_mod]
  have on : ((0 : Int) ≤ (index % width' : Nat) ∧ ((index % width' : Nat) : Int) < width') ∧
      (0 : Int) ≤ (index / width' : Nat) ∧ ((index / width' : Nat) : Int) < height' :=
    ⟨⟨Int.natCast_nonneg _, Int.ofNat_lt.mpr column⟩, Int.natCast_nonneg _, Int.ofNat_lt.mpr row⟩
  have same := pixel (index % width' : Nat) (index / width' : Nat)
  simp only [get?, index?, dif_pos on, Option.map_some, Option.some.injEq, Int.toNat_natCast, place,
    Fin.getElem_fin] at same
  exact same

/-! ## Changes of all pixels -/

/-- The second sheet is the first one, each pixel of it changed as its place and value say. -/
structure Changed (change : Int → Int → UInt8 → UInt8) (s t : Sheet) : Prop where
  width : t.width = s.width
  height : t.height = s.height
  dpi : t.dpi = s.dpi
  length : t.pixels.toArray.size = s.pixels.toArray.size
  pixel : ∀ x y, t.get? x y = (s.get? x y).map (change x y)

theorem Changed.congr {change change' : Int → Int → UInt8 → UInt8} {s t : Sheet}
    (changed : Changed change s t) (same : ∀ x y old, change x y old = change' x y old) :
    Changed change' s t := by
  have equal : change = change' := funext fun x => funext fun y => funext (same x y)
  rwa [← equal]

theorem Changed.refl (s : Sheet) : Changed (fun _ _ old => old) s s :=
  ⟨rfl, rfl, rfl, rfl, fun _ _ => Option.map_id'.symm⟩

theorem Changed.trans {change change' : Int → Int → UInt8 → UInt8} {s t u : Sheet}
    (first : Changed change s t) (second : Changed change' t u) :
    Changed (fun x y old => change' x y (change x y old)) s u where
  width := second.width.trans first.width
  height := second.height.trans first.height
  dpi := second.dpi.trans first.dpi
  length := second.length.trans first.length
  pixel x y := by
    rw [second.pixel, first.pixel, Option.map_map]
    rfl

/-- What becomes of its pixels says all about a sheet. -/
theorem Changed.unique {change : Int → Int → UInt8 → UInt8} {s t t' : Sheet}
    (first : Changed change s t) (second : Changed change s t') : t = t' := by
  apply ext_get?
  · simp only [clear, first.width, first.height, first.dpi, second.width, second.height, second.dpi]
  · intro x y
    rw [first.pixel, second.pixel]

/-- Only the places that a sheet has need to be looked at. -/
theorem Changed.of_on {change : Int → Int → UInt8 → UInt8} {s t : Sheet} (size : t.clear = s.clear)
    (pixel : ∀ x y, s.On x y → t.get? x y = (s.get? x y).map (change x y)) :
    Changed change s t := by
  have width : t.width = s.width := congrArg (·.width) size
  have height : t.height = s.height := congrArg (·.height) size
  refine ⟨width, height, congrArg (·.dpi) size, ?_, ?_⟩
  · rw [Vector.size_toArray, Vector.size_toArray, width, height]
  · intro x y
    by_cases on : s.On x y
    · exact pixel x y on
    · have off : ¬ t.On x y := by rwa [On, width, height]
      rw [get?_of_not_on on, get?_of_not_on off, Option.map_none]

/-- A pixel after a sequence of steps, each of which keeps the size and changes the pixel as the
step says. -/
theorem get?_foldl {α : Type} {step : Sheet → α → Sheet} {s : Sheet} {px py : Int}
    (change : α → UInt8 → UInt8) (keeps : ∀ t a, (step t a).clear = t.clear)
    (changes : ∀ t a, t.clear = s.clear →
      (step t a).get? px py = (t.get? px py).map (change a)) (steps : List α) :
    (steps.foldl step s).get? px py =
      (s.get? px py).map fun old => steps.foldl (fun old a => change a old) old := by
  suffices run : ∀ t, t.clear = s.clear → (steps.foldl step t).get? px py =
      (t.get? px py).map fun old => steps.foldl (fun old a => change a old) old from run s rfl
  induction steps with
  | nil => exact fun t _ => Option.map_id'.symm
  | cons a rest ih =>
    intro t same
    rw [List.foldl_cons, ih _ ((keeps t a).trans same), changes t a same, Option.map_map]
    rfl

/-- A loop changes a value once: where it comes to the place that is looked at. -/
theorem foldl_range'_place {β : Type} (change : Nat → β → β) (first place : Int)
    (start size : Nat) (value : β) :
    (List.range' start size).foldl
        (fun value i => if place = first + (i : Nat) then change i value else value) value =
      if first + start ≤ place ∧ place < first + start + size then
        change (place - first).toNat value
      else value := by
  induction size generalizing start value with
  | zero => rw [List.range'_zero, List.foldl_nil, if_neg (by omega)]
  | succ size ih =>
    rw [List.range'_succ, List.foldl_cons, ih]
    by_cases here : place = first + start
    · have index : (place - first).toNat = start := by omega
      rw [if_pos here, if_neg (by omega), if_pos (by omega), index]
    · rw [if_neg here]
      exact if_congr (by omega) rfl rfl

/-- What a span leaves out is not on the sheet. -/
theorem foldl_span_place {β : Type} (change : Nat → β → β) {first last place : Int} {size : Nat}
    (on : 0 ≤ place ∧ place < size) (value : β) :
    (span first last size).foldl
        (fun value (i : Nat) => if place = i then change i value else value) value =
      if first ≤ place ∧ place < last then change place.toNat value else value := by
  have loop := foldl_range'_place change 0 place first.toNat
    (min last.toNat size - first.toNat) value
  simp only [Int.zero_add, Int.sub_zero] at loop
  rw [span, loop]
  exact if_congr (by omega) rfl rfl

/-- What loops over rows and columns do to a pixel, if a step changes the one at its own place. How
long a row is may depend on how wide the sheet is. -/
theorem get?_raster {step : Sheet → Nat → Nat → Sheet} (change : Nat → Nat → UInt8 → UInt8)
    (x y px py : Int) (keeps : ∀ t column row, (step t column row).clear = t.clear)
    (changes : ∀ t column row, (step t column row).get? px py = (t.get? px py).map fun old =>
      if px = x + (column : Nat) ∧ py = y + (row : Nat) then change column row old else old)
    (left top rows : Nat) (columns : Nat → Nat) (s : Sheet) :
    ((List.range' top rows).foldl (fun s row =>
        (List.range' left (columns s.width)).foldl (fun s column => step s column row) s)
          s).get? px py =
      (s.get? px py).map fun old =>
        if (x + left ≤ px ∧ px < x + left + columns s.width) ∧ y + top ≤ py ∧ py < y + top + rows
        then change (px - x).toNat (py - y).toNat old
        else old := by
  let within := x + left ≤ px ∧ px < x + left + columns s.width
  have line (t : Sheet) (row : Nat) (same : t.clear = s.clear) :
      ((List.range' left (columns t.width)).foldl (fun s column => step s column row)
          t).get? px py =
        (t.get? px py).map fun old =>
          if py = y + row then if within then change (px - x).toNat row old else old else old := by
    have width : t.width = s.width := congrArg (·.width) same
    rw [get?_foldl _ (fun t column => keeps t column row) fun t column _ => changes t column row]
    apply Option.map_congr
    intro old _
    simp only [ite_and, width]
    rw [foldl_range'_place fun column old => if py = y + row then change column row old else old]
    grind
  rw [get?_foldl _ (fun t row => clear_foldl (fun t column => keeps t column row) _ t) line]
  apply Option.map_congr
  intro old _
  rw [foldl_range'_place (fun row old => if within then change (px - x).toNat row old else old)]
  grind

end Sheet

/-! ## Glyphs, boxes and rules -/

/-- The coverage that a glyph has at a place of the sheet that it is printed on. -/
def Glyph.coverageOver (g : Glyph) (x y px py : Int) : UInt8 :=
  if (x ≤ px ∧ px < x + g.width) ∧ y ≤ py ∧ py < y + g.height then
    g.coverageAt (px - x).toNat (py - y).toNat
  else 0

namespace Sheet

open Pixel

variable (s : Sheet)

/-- What ink of some coverage makes of a pixel. Without coverage there is no ink. -/
def pressed (additive : Bool) (ink : Ink) (coverage old : UInt8) : UInt8 :=
  if coverage = 0 then old
  else if additive then joinInk ink coverage old
  else replaceInk ink coverage old

theorem changed_blit (g : Glyph) (x y : Int) (additive : Bool) (ink : Ink) :
    Changed (fun px py => pressed additive ink (g.coverageOver x y px py))
      s (s.blit g x y additive ink) := by
  apply Changed.of_on (clear_blit ..)
  intro px py _
  rw [blit, List.range_eq_range', List.range_eq_range',
    get?_raster (fun column row => pressed additive ink (g.coverageAt column row)) x y px py ?keeps
      ?changes 0 0 g.height fun _ => g.width]
  case keeps => exact fun t column row => clear_ite _ (clear_modify ..)
  case changes =>
    intro t column row
    simp only [pressed]
    split
    · simp only [ite_self, Option.map_id']
    · cases additive <;> exact get?_modify ..
  case _ =>
    apply Option.map_congr
    intro old _
    simp only [Glyph.coverageOver, Int.natCast_zero, Int.add_zero]
    split <;> rfl

theorem changed_fill (x y : Int) (width height : Nat) (ink : Ink) :
    Changed (fun px py old =>
        if (x ≤ px ∧ px < Rounding.wrap 64 (x + width)) ∧
            y ≤ py ∧ py < Rounding.wrap 64 (y + height) then
          old ||| (ink.bits ||| intensityMask)
        else old)
      s (s.fill x y width height ink) := by
  apply Changed.of_on (clear_fill ..)
  intro px py ⟨column, row⟩
  rw [fill]
  generalize Rounding.wrap 64 (x + width) = right
  generalize Rounding.wrap 64 (y + height) = bottom
  let columns (size : Nat) := min right.toNat size - x.toNat
  simp only [span]
  rw [get?_raster (fun _ _ old => old ||| (ink.bits ||| intensityMask)) 0 0 px py ?keeps
    ?changes x.toNat y.toNat (min bottom.toNat s.height - y.toNat) columns]
  case keeps => exact fun t column row => clear_modify ..
  case changes =>
    intro t column row
    simp only [get?_modify, Int.zero_add]
  case _ =>
    apply Option.map_congr
    intro old _
    simp only [columns]
    exact if_congr (by omega) rfl rfl

/-- The far edges of a box are numbers of 64 bits. -/
def BoxFits (x y : Int) (width height : Nat) : Prop :=
  Rounding.Fits 64 (x + width) ∧ Rounding.Fits 64 (y + height)

theorem BoxFits.edges {x y : Int} {width height : Nat} (fits : BoxFits x y width height) :
    Rounding.wrap 64 (x + width) = x + width ∧ Rounding.wrap 64 (y + height) = y + height :=
  ⟨Rounding.wrap_of_fits (by decide) fits.1, Rounding.wrap_of_fits (by decide) fits.2⟩

theorem changed_fill_of_fits {x y : Int} {width height : Nat} (fits : BoxFits x y width height)
    (ink : Ink) :
    Changed (fun px py old =>
        if (x ≤ px ∧ px < x + width) ∧ y ≤ py ∧ py < y + height then
          old ||| (ink.bits ||| intensityMask)
        else old)
      s (s.fill x y width height ink) := by
  have changed := changed_fill s x y width height ink
  rwa [fits.edges.1, fits.edges.2] at changed

/-- The gaps of a broken rule, for columns of the sheet. -/
theorem inGap_toNat {dpi : Nat} {column : Int} (on : 0 ≤ column) :
    inGap dpi column.toNat = true ↔
      max ((dpi : Int) / 15) 1 * 4 / 5 < column % max ((dpi : Int) / 15) 1 := by
  obtain ⟨n, rfl⟩ := Int.eq_ofNat_of_zero_le on
  have period : max ((dpi : Int) / 15) 1 = rulePeriod dpi := by
    rw [rulePeriod]
    omega
  rw [inGap, decide_eq_true_iff, Int.toNat_natCast, period, ← Int.natCast_emod]
  omega

/-- What a rule makes of a pixel of a column, some rows below its centre. -/
def ruled (dpi : Nat) (broken : Bool) (column : Nat) (below : Int) (old : UInt8) : UInt8 :=
  if below.natAbs ≤ 1 ∧ ¬ (broken = true ∧ inGap dpi column = true) then
    if below = 0 ∧ broken = false then 255 else 240
  else old

theorem changed_rule (first last y : Int) (broken : Bool) :
    Changed (fun px py old =>
        if max first 0 ≤ px ∧ px ≤ last then ruled s.dpi broken px.toNat (py - y) old else old)
      s (s.rule first last y broken) := by
  apply Changed.of_on (clear_rule ..)
  intro px py ⟨column, row⟩
  rw [rule, get?_foldl (fun (column : Nat) old =>
    if px = column then ruled s.dpi broken column (py - y) old else old) ?keeps ?changes]
  case keeps =>
    intro t column
    apply clear_ite
    simp only [clear_modify]
  case changes =>
    intro t column same
    have dpi : t.dpi = s.dpi := congrArg (·.dpi) same
    simp only [dpi, ruled]
    split
    case isTrue gap =>
      have skipped : broken = true ∧ inGap s.dpi column = true := by simpa using gap
      simp only [skipped, and_self, not_true_eq_false, and_false, if_false, ite_self,
        Option.map_id']
    case isFalse solid =>
      have marked : ¬ (broken = true ∧ inGap s.dpi column = true) := by simpa using solid
      simp only [get?_modify, Option.map_map, marked, not_false_eq_true, and_true]
      apply Option.map_congr
      intro old _
      grind
  case _ =>
    apply Option.map_congr
    intro old _
    rw [foldl_span_place fun column => ruled s.dpi broken column (py - y)]
    · exact if_congr (by omega) rfl rfl
    · exact column

/-- All drawing, pixel by pixel: where a glyph has coverage its ink replaces the pixel, or adds to
it up to full intensity and joins its colour bits; a box whose far edges have a number joins full
ink; and a rule is three rows high, with a gap at the end of each period if it is broken. Every
other pixel is left as it is. -/
theorem drawn_pixelwise (x y : Int) (ink : Ink) :
    (∀ (g : Glyph) (additive : Bool),
      Changed (fun px py old =>
          let coverage := g.coverageOver x y px py
          if coverage = 0 then old
          else if additive then
            ofParts (band old ||| ink.band) (min 31 (intensity old + (coverage >>> 3).toNat))
          else coverage >>> 3 ||| ink.bits)
        s (s.blit g x y additive ink)) ∧
      (∀ width height : Nat, BoxFits x y width height →
        Changed (fun px py old =>
            if (x ≤ px ∧ px < x + width) ∧ y ≤ py ∧ py < y + height then
              old ||| (ink.bits ||| 31)
            else old)
          s (s.fill x y width height ink)) ∧
      ∀ (last : Int) (broken : Bool),
        Changed (fun px py old =>
            let period := max ((s.dpi : Int) / 15) 1
            if (max x 0 ≤ px ∧ px ≤ last) ∧ (py - y).natAbs ≤ 1 ∧
                ¬ (broken = true ∧ period * 4 / 5 < px % period) then
              if py = y ∧ broken = false then 255 else 240
            else old)
          s (s.rule x last y broken) := by
  refine ⟨?blit, fun width height fits => changed_fill_of_fits s fits ink, ?rule⟩
  case blit =>
    intro g additive
    apply (changed_blit s g x y additive ink).congr
    intro px py old
    simp only [pressed, joinInk_eq, replaceInk]
  case rule =>
    intro last broken
    apply (changed_rule s x last y broken).congr
    intro px py old
    by_cases within : max x 0 ≤ px ∧ px ≤ last
    · have on : 0 ≤ px := Int.le_trans (Int.le_max_right ..) within.1
      simp only [ruled, inGap_toNat on, Int.sub_eq_zero, within, and_self, true_and, if_true]
    · simp only [within, false_and, if_false]

/-- What a box has beyond the right edge is not in the next row. -/
theorem drawn_pixelwise_beyond :
    let sheet := blank 3 2 180
    BoxFits 2 (-1) 4 2 ∧
      Changed (fun px py old =>
          if (2 ≤ px ∧ px < 2 + (4 : Nat)) ∧ -1 ≤ py ∧ py < -1 + (2 : Nat) then
            old ||| (Ink.red.bits ||| 31)
          else old)
        sheet (sheet.fill 2 (-1) 4 2 .red) ∧
      sheet.fill 2 (-1) 4 2 .red = ⟨3, 2, 180, #v[0, 0, 0xBF, 0, 0, 0]⟩ := by
  intro sheet
  have fits : BoxFits 2 (-1) 4 2 := by unfold BoxFits; decide
  exact ⟨fits, (drawn_pixelwise sheet 2 (-1) .red).2.1 4 2 fits, by decide +kernel⟩

end Sheet

end PinPrinter
