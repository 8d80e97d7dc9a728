import Mathlib.Data.List.Chain
import PinPrinter.Proofs.Barcode.Printing
import PinPrinter.Proofs.Filling
import PinPrinter.Proofs.Inking
import PinPrinter.Proofs.Pixelwise

/-! # The bars of a symbol

A symbol is drawn module by module, with a cursor that goes on by the width of each. The box of a
bar reaches from the column that the cursor is rounded to in front of the module to the one that it
is rounded to behind it, and is a column wide where the two are the same. The cursor behind a module
is the one in front of the next, so where bars follow each other each box begins in the column where
the one before it ends, and no column between the outer edges is left out. Neither the width of a
module nor the direction in which rounding goes has a part in this.
-/

namespace PinPrinter

namespace Barcode

/-- The edges of a bar: the columns from `left` up to, and without, `right`. -/
structure Bar where
  left : Int
  right : Int
  deriving DecidableEq, Repr

/-- The width of the box that is drawn for a bar, at least one column. -/
def Bar.width (bar : Bar) : Nat :=
  (max (bar.right - bar.left) 1).toNat

end Barcode

/-- Draw the boxes of some bars in the same rows. -/
def Sheet.drawBars (s : Sheet) (top : Int) (height : Nat) (ink : Ink) (bars : List Barcode.Bar) :
    Sheet :=
  bars.foldl (fun s bar => s.fill bar.left top bar.width height ink) s

namespace Barcode

section Modules

variable (b : Barcode) (dpi : Nat) (x : Float)

/-- The cursor behind a module. -/
def pass (x : Float) (bar : Bool) : Float :=
  x + if bar then b.barWidth else b.spaceWidth

/-- The cursor behind some modules. -/
def reach (modules : Modules) : Float :=
  modules.foldl b.pass x

/-- The bar that a module is, with the cursor in front of it. -/
def barAt : Bar :=
  ⟨Rounding.pixel x dpi, Rounding.pixel (b.pass x true) dpi⟩

/-- The bars among some modules. -/
def bars (x : Float) : Modules → List Bar
  | [] => []
  | true :: rest => b.barAt dpi x :: bars (b.pass x true) rest
  | false :: rest => bars (b.pass x false) rest

theorem bars_append (first second : Modules) :
    b.bars dpi x (first ++ second) = b.bars dpi x first ++ b.bars dpi (b.reach x first) second := by
  induction first generalizing x with
  | nil => rfl
  | cons bar rest ih =>
    cases bar with
    | true => exact congrArg (b.barAt dpi x :: ·) (ih _)
    | false => exact ih _

/-! ## Bars that follow each other -/

/-- Each bar of a run begins where the one before it ends. -/
theorem isChain_bars_replicate (n : Nat) :
    (b.bars dpi x (List.replicate n true)).IsChain fun bar next => next.left = bar.right := by
  induction n generalizing x with
  | zero => exact .nil
  | succ n ih =>
    cases n with
    | zero => exact .singleton _
    | succ n => exact .cons_cons rfl (ih _)

theorem length_bars_replicate (n : Nat) : (b.bars dpi x (List.replicate n true)).length = n := by
  induction n generalizing x with
  | zero => rfl
  | succ n ih => exact congrArg (· + 1) (ih _)

/-- No column between the outer edges of a run is left out. -/
theorem exists_bar_of_between {n : Nat} {column : Int} (least : Rounding.pixel x dpi ≤ column)
    (below : column < Rounding.pixel (b.reach x (List.replicate n true)) dpi) :
    ∃ bar ∈ b.bars dpi x (List.replicate n true),
      Rounding.Fits 64 bar.right ∧ bar.left ≤ column ∧ column < bar.right := by
  induction n generalizing x with
  | zero => exact absurd below (Int.not_lt.mpr least)
  | succ n ih =>
    -- What is not in front of the right edge of the first bar is not in front of the run behind it,
    -- since that edge is where the run behind it begins.
    by_cases first : column < Rounding.pixel (b.pass x true) dpi
    · exact ⟨b.barAt dpi x, List.mem_cons_self .., Rounding.fits_whole .., least, first⟩
    · obtain ⟨bar, member, on⟩ := ih _ (Int.not_lt.mp first) below
      exact ⟨bar, List.mem_cons_of_mem _ member, on⟩

end Modules

/-! ## Drawing -/

/-- The box of a bar has every column between the edges, so its own right edge has a number. -/
theorem Bar.lt_wrap_left_add_width {bar : Bar} {column : Int} (fits : Rounding.Fits 64 bar.right)
    (least : bar.left ≤ column) (below : column < bar.right) :
    column < Rounding.wrap 64 (bar.left + bar.width) := by
  have edge : bar.left + bar.width = bar.right := by
    unfold width
    omega
  rwa [edge, Rounding.wrap_of_fits (by decide) fits]

variable (b : Barcode) (s : Sheet) (x y : Float) (ink : Ink) (modules : Modules)

/-- A symbol is the boxes of its bars, all of them in the same rows. -/
theorem draw_eq :
    b.draw s x y ink modules =
      (s.drawBars (Rounding.pixel y s.dpi) (b.barHeight s.dpi) ink (b.bars s.dpi x modules),
        b.reach x modules) := by
  induction modules generalizing s x with
  | nil => rfl
  | cons bar rest ih =>
    cases bar with
    | false => exact ih s _
    | true =>
      let first := b.barAt s.dpi x
      let t := s.fill first.left (Rounding.pixel y s.dpi) first.width (b.barHeight s.dpi) ink
      -- The other modules are drawn on a sheet of the same resolution, so they are rounded alike.
      have same : t.dpi = s.dpi := congrArg (·.dpi) (s.clear_fill ..)
      have drawn := ih t (b.pass x true)
      rw [same] at drawn
      exact drawn

theorem clear_draw : (b.draw s x y ink modules).1.clear = s.clear := by
  rw [draw_eq]
  exact Sheet.clear_foldl (fun s bar => Sheet.clear_fill ..) _ s

theorem inked_draw : Sheet.Inked s (b.draw s x y ink modules).1 := by
  rw [draw_eq]
  exact Sheet.inked_foldl (fun s bar => Sheet.inked_fill ..) _ s

theorem filled_draw : Sheet.Filled ink s (b.draw s x y ink modules).1 := by
  rw [draw_eq]
  exact Sheet.filled_foldl (fun s bar => Sheet.filled_fill ..) _ s

end Barcode

namespace Sheet

/-- Full ink that joins for one reason, and then for another, joins for either. -/
theorem ite_or_full (ink : Ink) (old : UInt8) (first second : Prop) [Decidable first]
    [Decidable second] :
    (if second then (if first then old ||| ink.full else old) ||| ink.full
      else if first then old ||| ink.full else old) =
      if first ∨ second then old ||| ink.full else old := by
  by_cases once : first
  · simp [once]
  · simp [once]

/-- Where a box lies full ink joins the pixel, however many boxes lie there. -/
theorem changed_drawBars (s : Sheet) (top : Int) (height : Nat) (ink : Ink)
    (bars : List Barcode.Bar) :
    Changed (fun column row old =>
        if ∃ bar ∈ bars, (bar.left ≤ column ∧ column < Rounding.wrap 64 (bar.left + bar.width)) ∧
            top ≤ row ∧ row < Rounding.wrap 64 (top + height) then
          old ||| ink.full
        else old)
      s (s.drawBars top height ink bars) := by
  induction bars generalizing s with
  | nil =>
    apply (Changed.refl s).congr
    intro column row old
    rw [if_neg]
    rintro ⟨bar, member, -⟩
    cases member
  | cons bar rest ih =>
    apply ((changed_fill s bar.left top bar.width height ink).trans (ih _)).congr
    intro column row old
    refine (ite_or_full ink old _ _).trans (if_congr ?_ rfl rfl)
    rw [List.exists_mem_cons_iff]

/-- Between the edges of a bar no pixel is without full ink. -/
theorem get?_drawBars_of_mem (s : Sheet) {top : Int} {height : Nat} (ink : Ink)
    {bars : List Barcode.Bar} {bar : Barcode.Bar} {column row : Int} (member : bar ∈ bars)
    (fits : Rounding.Fits 64 bar.right) (between : bar.left ≤ column ∧ column < bar.right)
    (inside : top ≤ row ∧ row < Rounding.wrap 64 (top + height)) :
    (s.drawBars top height ink bars).get? column row =
      (s.get? column row).map (· ||| ink.full) := by
  have covered : ∃ bar ∈ bars,
      (bar.left ≤ column ∧ column < Rounding.wrap 64 (bar.left + bar.width)) ∧
        top ≤ row ∧ row < Rounding.wrap 64 (top + height) :=
    ⟨bar, member,
      ⟨between.1, Barcode.Bar.lt_wrap_left_add_width fits between.1 between.2⟩, inside⟩
  rw [(s.changed_drawBars top height ink bars).pixel]
  simp only [covered, if_true]

end Sheet

namespace Barcode

variable {b : Barcode} {encoders : Encoders} {modules : Modules}

/-- A bar code has no gaps inside of its bars. Each module that is a bar is drawn as a box in the
same rows, and where such modules follow each other each box begins in the column where the one
before it ends; so all columns between the outer edges get ink. -/
theorem gapless_of_encoded (encoded : b.encodeWith encoders = .ok modules) (s : Sheet)
    (x y : Float) (ink : Ink) :
    let top := Rounding.pixel y s.dpi
    let height := b.barHeight s.dpi
    ∃ t width, b.printWith encoders s x y ink = .ok (t, width) ∧
      t = s.drawBars top height ink (b.bars s.dpi x modules) ∧
      ∀ before n after, modules = before ++ (List.replicate n true ++ after) →
        let first := b.reach x before
        let last := b.reach first (List.replicate n true)
        let run := b.bars s.dpi first (List.replicate n true)
        b.bars s.dpi x modules = b.bars s.dpi x before ++ (run ++ b.bars s.dpi last after) ∧
          run.length = n ∧ run.IsChain (fun bar next => next.left = bar.right) ∧
          ∀ column row, Rounding.pixel first s.dpi ≤ column → column < Rounding.pixel last s.dpi →
            top ≤ row → row < Rounding.wrap 64 (top + height) →
            t.get? column row = (s.get? column row).map (· ||| ink.full) := by
  intro top height
  have printed := printWith_of_encoded encoded s x y ink
  rw [draw_eq] at printed
  refine ⟨_, _, printed, rfl, ?_⟩
  rintro before n after rfl first last run
  have parts : b.bars s.dpi x (before ++ (List.replicate n true ++ after)) =
      b.bars s.dpi x before ++ (run ++ b.bars s.dpi last after) := by
    rw [bars_append, bars_append]
  refine ⟨parts, b.length_bars_replicate s.dpi first n, b.isChain_bars_replicate s.dpi first n, ?_⟩
  intro column row least below upper lower
  obtain ⟨bar, member, fits, between⟩ := b.exists_bar_of_between s.dpi first least below
  rw [parts]
  exact s.get?_drawBars_of_mem ink
    (List.mem_append_right _ (List.mem_append_left _ member)) fits between ⟨upper, lower⟩

/-- The three modules in front of the first gap of the fifth digit, at a resolution where a module
is a pixel and a ninth. -/
theorem gapless_of_encoded_ean8 :
    let b : Barcode := ⟨.ean8, 2, 0, 3, 0, List.replicate 7 0x30⟩
    let s := Sheet.blank 120 4 100
    ∃ t width, b.printWith .standard s 0.05 0.0 .red = .ok (t, width) ∧
      ∀ column row, 45 ≤ column → column < 48 → 0 ≤ row → row < 2 →
        t.get? column row = (s.get? column row).map (· ||| Ink.red.full) := by
  intro b s
  let zero : Modules := [false, false, false, true, true, false, true]
  let before : Modules :=
    [true, false, true] ++ (List.replicate 4 zero).flatten ++ [false, true, false, true, false]
  let after : Modules :=
    [false, false, true, false] ++ (List.replicate 3 (zero.map (!·))).flatten ++ [true, false, true]
  have encoded : b.encodeWith .standard = .ok (before ++ (List.replicate 3 true ++ after)) := by
    decide +kernel
  obtain ⟨t, width, printed, -, runs⟩ := gapless_of_encoded encoded s 0.05 0.0 .red
  obtain ⟨-, -, -, inked⟩ := runs before 3 after rfl
  refine ⟨t, width, printed, ?_⟩
  intro column row least below upper lower
  have left : Rounding.pixel (b.reach 0.05 before) 100 = 45 := by decide +kernel
  have right : Rounding.pixel (b.reach (b.reach 0.05 before) (List.replicate 3 true)) 100 = 48 := by
    decide +kernel
  have top : Rounding.pixel 0.0 100 = 0 := by decide +kernel
  have bottom : Rounding.wrap 64 (Rounding.pixel 0.0 100 + b.barHeight 100) = 2 := by decide +kernel
  apply inked
  · exact left ▸ least
  · exact right ▸ below
  · exact top ▸ upper
  · exact bottom ▸ lower

end Barcode

end PinPrinter
