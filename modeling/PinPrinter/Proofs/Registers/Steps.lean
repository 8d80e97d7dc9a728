import PinPrinter.Proofs.Binary64.Order
import PinPrinter.Proofs.Registers.Font
import PinPrinter.Proofs.Registers.View

/-! # Steps of bounded length

A command brings numbers of one or two bytes. So no line, column, gap or unit that a host asks for
is longer than 65536 inches, none is negative, and pitches and sizes stay within bounds as well.
Every distance that the pen goes in one step is made of these registers, or is the width of a
character of that size.
-/

namespace PinPrinter

open Binary64

namespace Instruction

/-- The numbers of an instruction are such as a command can bring. -/
def InRange : Instruction → Prop
  | .lineSpacing count perInch => count < 65536 ∧ 0 < perInch ∧ perInch < 65536
  | .pitchAndPoint n halfPoints => n < 65536 ∧ halfPoints < 65536
  | .pitch cpi => cpi = 10 ∨ cpi = 12 ∨ cpi = 15
  | .pageFormat top bottom => top < 65536 ∧ bottom < 65536
  | .pageLines n | .pageInches n | .pageUnits n | .bottomMargin n | .rightMargin n | .leftMargin n
  | .defineUnit n | .absoluteX n | .absoluteY n | .motionIndex n | .extraSpace n | .skipColumns n
  | .skipLines n | .advance n | .reverse n => n < 65536
  | _ => True

theorem byte_lt (b : UInt8) : b.toNat < 65536 :=
  b.toNat_lt.trans (by decide)

theorem inRange_tallSwitch (n : UInt8) : (ofEsc.tallSwitch n).InRange := by
  unfold ofEsc.tallSwitch
  split <;> exact trivial

theorem inRange_ofEsc (opcode : UInt8) (params : Array UInt8) : (ofEsc opcode params).InRange := by
  unfold ofEsc
  dsimp only
  split
  all_goals first
    | exact trivial
    | exact byte_lt _
    | exact Command.word_lt ..
    | exact ⟨byte_lt _, by decide, by decide⟩
    | exact ⟨byte_lt _, Command.word_lt ..⟩
    | (unfold InRange; decide)
    | exact inRange_tallSwitch _
    | (split <;> first | exact trivial | exact byte_lt _)

theorem inRange_ofFs (opcode : UInt8) (params : Array UInt8) : (ofFs opcode params).InRange := by
  unfold ofFs
  dsimp only
  split
  all_goals first
    | exact trivial
    | exact ⟨byte_lt _, by decide, by decide⟩
    | (unfold InRange; decide)
    | exact inRange_tallSwitch _

theorem inRange_ofExtended (opcode : UInt8) (params : Array UInt8) :
    (ofExtended opcode params).InRange := by
  unfold ofExtended
  dsimp only
  split
  all_goals first
    | exact trivial
    | exact Command.word_lt ..
    | exact ⟨Command.word_lt .., Command.word_lt ..⟩
    | (split <;> first | exact trivial | exact byte_lt _ | exact Command.word_lt ..)

theorem inRange_ofCommand (c : Command) (params : Array UInt8) : (ofCommand c params).InRange := by
  obtain ⟨introducer, opcode⟩ := c
  cases introducer with
  | esc => exact inRange_ofEsc opcode params
  | fs => exact inRange_ofFs opcode params
  | extended => exact inRange_ofExtended opcode params

end Instruction

/-- The registers that say how far a step goes. -/
structure Steps where
  lineSpacing : Float
  cpi : Float
  extraSpacing : Float
  motionIndex : Option Float
  unit : Option Float
  multipoint : Bool
  multiCpi : Float
  multiPoints : Float

/-- A way that is not negative and not too long for two bytes of inches. -/
def IsStep (x : Float) : Prop :=
  Within 0.0 65536.0 x

instance (x : Float) : Decidable (IsStep x) :=
  inferInstanceAs (Decidable (Within _ _ _))

theorem isStep_zero : IsStep 0.0 := by
  decide

theorem isStep_of_mem_some {x : Float} (step : IsStep x) : ∀ way ∈ some x, IsStep way := by
  rintro way same
  obtain rfl := Option.some.inj same
  exact step

theorem isStep_ofNat {n : Nat} (small : n < 65536) : IsStep (Float.ofNat n) :=
  within_ofNat (Nat.zero_le n) small.le (by decide)

/-- A count of parts of an inch. -/
theorem isStep_div {n : Nat} {d : Float} (small : n < 65536) (parts : Within 1.0 65536.0 d) :
    IsStep (Float.ofNat n / d) :=
  (isStep_ofNat small).div parts (by decide) (by decide)

namespace Steps

/-- Every step is of bounded length, and pitches stay away from zero. A pitch set apart from the
style is at hand whenever it is in force. -/
structure Bounded (s : Steps) : Prop where
  lineSpacing : IsStep s.lineSpacing
  cpi : Within 10.0 15.0 s.cpi
  extraSpacing : IsStep s.extraSpacing
  motionIndex : ∀ way ∈ s.motionIndex, IsStep way
  unit : ∀ way ∈ s.unit, IsStep way
  multiCpi : s.multiCpi = 0.0 ∧ s.multipoint = false ∨ Within 0.005 72.0 s.multiCpi
  multiPoints : Within 0.0 32.0 s.multiPoints

variable {s : Steps}

theorem Bounded.without_motionIndex (bounded : s.Bounded) :
    { s with motionIndex := none }.Bounded :=
  { bounded with motionIndex := nofun }

theorem Bounded.without_multipoint (bounded : s.Bounded) :
    { s with motionIndex := none, multipoint := false }.Bounded :=
  { bounded with
    motionIndex := nofun
    multiCpi := bounded.multiCpi.imp_left fun unset => ⟨unset.1, rfl⟩ }

end Steps

namespace Registers

variable {r : Registers}

/-- The steps that the registers ask for. -/
def steps (r : Registers) : Steps where
  lineSpacing := r.lineSpacing
  cpi := r.cpi
  extraSpacing := r.extraSpacing
  motionIndex := r.motionIndex
  unit := r.unit
  multipoint := r.multipoint
  multiCpi := r.multiCpi
  multiPoints := r.multiPoints

/-- Steps are bounded after a choice between settings if they are in both. -/
theorem bounded_ite {c : Prop} [Decidable c] {yes no : Registers} (isYes : yes.steps.Bounded)
    (isNo : no.steps.Bounded) : (if c then yes else no).steps.Bounded := by
  by_cases chosen : c
  · rwa [if_pos chosen]
  · rwa [if_neg chosen]

theorem bounded_powerOn (width height : Float) : (powerOn width height).steps.Bounded := by
  have lineSpacing : IsStep (1.0 / 6.0) := by decide
  have cpi : Within 10.0 15.0 10.0 := by decide
  have multiPoints : Within 0.0 32.0 0.0 := by decide
  exact ⟨lineSpacing, cpi, isStep_zero, nofun, nofun, .inl ⟨rfl, rfl⟩, multiPoints⟩

theorem pageless_steps : Pageless steps :=
  fun _ _ _ _ _ _ => rfl

theorem tableless_steps : Tableless steps :=
  fun _ _ _ _ _ => rfl

/-! ## What keeps steps bounded -/

theorem bounded_setExtraSpace (bounded : r.steps.Bounded) {count : Nat} (small : count < 65536) :
    (r.setExtraSpace count).steps.Bounded := by
  apply bounded_ite bounded
  have spaced (perInch : Float) (step : IsStep (Float.ofNat count / perInch)) :
      (updateFont { r with
        extraSpacing := Float.ofNat count / perInch
        motionIndex := none }).steps.Bounded :=
    { bounded.without_motionIndex with extraSpacing := step }
  refine spaced _ ?_
  cases r.quality with
  | draft => exact isStep_div small (by decide)
  | letter => exact isStep_div small (by decide)

theorem bounded_masterSelect (bounded : r.steps.Bounded) (bits : UInt8) :
    (r.masterSelect bits).steps.Bounded := by
  have pitch : Within 10.0 15.0 (if bits.toNat.testBit 0 then 12.0 else 10.0) := by
    split
    · decide
    · decide
  exact { bounded.without_multipoint with cpi := pitch }

/-- A point size is limited, whatever number of half points it is asked for in. -/
theorem within_limitPoints {points : Float} (number : IsNumber points) :
    Within 8.0 32.0 (limitPoints points) := by
  have least : 8.0 ≤ (if points < pointLimits.1 then pointLimits.1 else points) := by
    split
    · decide
    · rename_i large
      exact le_of_not_lt number (by decide) large
  have limit : IsNumber pointLimits.2 := by decide
  unfold limitPoints
  generalize (if points < pointLimits.1 then pointLimits.1 else points) = raised at least ⊢
  dsimp only
  split
  · decide
  · rename_i small
    have most : raised ≤ 32.0 := le_of_not_lt limit (le_iff.mp least).2.1 small
    exact ⟨least, most, by decide, by decide⟩

theorem bounded_setPitchAndPoint (bounded : r.steps.Bounded) {pitch : Nat} (small : pitch < 65536)
    {halfPoints : Nat} (few : halfPoints < 65536) :
    (r.setPitchAndPoint pitch halfPoints).steps.Bounded := by
  have cpi : Within 0.005 72.0 r.cpi := bounded.cpi.weaken (by decide)
  have before : Within 0.005 72.0 (if r.multiCpi == 0.0 then r.cpi else r.multiCpi) := by
    rcases bounded.multiCpi with ⟨unset, -⟩ | apart
    · have unset : r.multiCpi = 0.0 := unset
      rw [unset, if_pos (by decide)]
      exact cpi
    · split
      · exact cpi
      · exact apart
  have after : Within 0.005 72.0 (if pitch ≠ 1 ∧ 5 ≤ pitch then 360.0 / Float.ofNat pitch
      else if r.multiCpi == 0.0 then r.cpi else r.multiCpi) := by
    by_cases divides : pitch ≠ 1 ∧ 5 ≤ pitch
    · rw [if_pos divides]
      have whole : Within 360.0 360.0 360.0 := by decide
      have parts : Within 5.0 65536.0 (Float.ofNat pitch) :=
        within_ofNat divides.2 small.le (by decide)
      exact whole.div parts (by decide) (by decide)
    · rwa [if_neg divides]
  have points : Within 0.0 32.0 (if 0 < halfPoints then limitPoints (Float.ofNat halfPoints / 2.0)
      else if r.multiPoints == 0.0 then 10.5 else r.multiPoints) := by
    split
    · have size := isStep_div few (d := 2.0) (by decide)
      exact (within_limitPoints size.number).weaken (by decide)
    · split
      · decide
      · exact bounded.multiPoints
  exact { bounded with
    multiCpi := .inr after
    multiPoints := points }

/-- No instruction whose numbers are in range asks for a step that is out of bounds. -/
theorem bounded_obey (bounded : r.steps.Bounded) {instruction : Instruction}
    (inRange : instruction.InRange) : (r.obey instruction).steps.Bounded := by
  cases instruction with
  | restart => exact bounded_powerOn _ _
  | lineSpacing count perInch =>
    obtain ⟨small, least, most⟩ := inRange
    have parts : Within 1.0 65536.0 (Float.ofNat perInch) := within_ofNat least most.le (by decide)
    exact { bounded with lineSpacing := isStep_div small parts }
  | forwardSpacing => exact { bounded with lineSpacing := bounded.lineSpacing.abs }
  | pageLines _ | pageInches _ | pageUnits _ | pageFormat _ _ | bottomMargin _ | cancelMargins
  | rightMargin _ | leftMargin _ =>
    rw [pageless_steps.obey r]
    · exact bounded
    · rfl
    · nofun
  | defineUnit count =>
    exact { bounded with unit := isStep_of_mem_some (isStep_div inRange (by decide)) }
  | motionIndex count =>
    exact { bounded with
      motionIndex := isStep_of_mem_some (isStep_div inRange (by decide))
      extraSpacing := isStep_zero }
  | extraSpace count => exact bounded_setExtraSpace bounded inRange
  | tabEvery axis count => cases axis <;> exact bounded
  | pitch cpi =>
    have pitch : Within 10.0 15.0 (Float.ofNat cpi) := by
      rcases inRange with rfl | rfl | rfl <;> decide
    exact { bounded.without_multipoint with cpi := pitch }
  | masterSelect bits => exact bounded_masterSelect bounded bits
  | pitchAndPoint pitch halfPoints =>
    exact bounded_setPitchAndPoint bounded inRange.1 inRange.2
  | proportional on => exact bounded.without_multipoint
  | letterQuality on => exact bounded.without_motionIndex
  | wideLine => exact bounded_ite bounded bounded.without_motionIndex
  | condensed => exact bounded_ite bounded bounded.without_motionIndex
  | wide on => cases on <;> exact bounded_ite bounded bounded.without_motionIndex
  | tall on => exact bounded_ite bounded bounded
  | underline on => cases on <;> exact bounded
  | selectTable slot =>
    rw [tableless_steps.obey_selectTable]
    exact bounded
  | assignTable slot selector =>
    rw [tableless_steps.obey_assignTable]
    exact bounded
  | _ => exact bounded

theorem bounded_endLine (bounded : r.steps.Bounded) : r.endLine.steps.Bounded :=
  bounded_ite bounded bounded

theorem bounded_control (bounded : r.steps.Bounded) (autofeed : Bool) (code : Control) :
    (r.control autofeed code).steps.Bounded := by
  cases code with
  | verticalTab => exact bounded_endLine bounded
  | formFeed => exact bounded_endLine bounded
  | lineFeed => exact bounded_endLine bounded
  | carriageReturn => exact bounded_ite (bounded_endLine bounded) bounded
  | shiftOut => exact bounded_ite bounded bounded.without_motionIndex
  | shiftIn => exact bounded_ite bounded bounded.without_motionIndex
  | cancelCondensed => exact bounded.without_motionIndex
  | cancelWideLine => exact bounded.without_motionIndex
  | _ => exact bounded

theorem bounded_setTabs (bounded : r.steps.Bounded) (axis : TabAxis) (stops : List UInt8) :
    (r.setTabs axis stops).steps.Bounded := by
  cases axis with
  | horizontal => exact bounded
  | vertical => exact bounded

/-! ## Distances -/

theorem isStep_absoluteUnit (bounded : r.steps.Bounded) : IsStep r.absoluteUnit := by
  unfold absoluteUnit
  cases defined : r.unit with
  | none => decide
  | some unit => exact bounded.unit unit defined

theorem isStep_verticalUnit (bounded : r.steps.Bounded) : IsStep r.verticalUnit := by
  unfold verticalUnit
  cases defined : r.unit with
  | none => decide
  | some unit => exact bounded.unit unit defined

/-- The pitch before scripts shrink the characters. -/
def unscriptedCpi (r : Registers) : Float :=
  if r.multipoint then r.multiCpi
  else
    let cpi :=
      if r.style.proportional then r.cpi
      else if r.style.condensed && r.cpi == 10.0 then 17.14
      else if r.style.condensed && r.cpi == 12.0 then 20.0
      else r.cpi
    if r.style.wide || r.style.wideLine then cpi / 2.0 else cpi

theorem cpi_wantedFont (r : Registers) :
    r.wantedFont.cpi =
      if r.style.script then r.unscriptedCpi / (2.0 / 3.0) else r.unscriptedCpi := by
  unfold wantedFont unscriptedCpi
  dsimp only
  cases r.multipoint with
  | true => cases r.style.script <;> rfl
  | false =>
    generalize (r.style.wide || r.style.wideLine) = wide
    generalize (r.cpi == 10.0) = ten
    generalize (r.cpi == 12.0) = twelve
    cases r.style.script <;> cases wide <;> cases r.style.proportional <;> try rfl
    all_goals
      cases r.style.condensed <;> try rfl
      cases ten <;> try rfl
      cases twelve <;> rfl

theorem within_unscriptedCpi (bounded : r.steps.Bounded) :
    Within 0.005 100.0 r.unscriptedCpi := by
  unfold unscriptedCpi
  by_cases apart : r.multipoint = true
  · rw [if_pos apart]
    rcases bounded.multiCpi with ⟨-, together⟩ | within
    · exact absurd (apart.symm.trans together) (by decide)
    · exact within.weaken (by decide)
  · rw [if_neg apart]
    have cpi : Within 10.0 20.0 (if r.style.proportional then r.cpi
        else if r.style.condensed && r.cpi == 10.0 then 17.14
        else if r.style.condensed && r.cpi == 12.0 then 20.0
        else r.cpi) := by
      have own : Within 10.0 20.0 r.cpi := bounded.cpi.weaken (by decide)
      split
      · exact own
      · split
        · decide
        · split
          · decide
          · exact own
    have two : Within 2.0 2.0 2.0 := by decide
    dsimp only
    split
    · exact cpi.div two (by decide) (by decide)
    · exact cpi.weaken (by decide)

/-- The horizontal size before scripts shrink the characters. -/
def unscriptedPoints (r : Registers) : Float :=
  if r.multipoint then r.multiPoints
  else
    let h : Float := if r.style.condensed then 10.5 else 10.5 * (10.0 / r.cpi)
    let h :=
      if r.style.proportional then (if r.style.condensed then h / 2.0 else h)
      else if r.style.condensed && r.cpi == 10.0 then h * (10.0 / 17.14)
      else if r.style.condensed && r.cpi == 12.0 then h * (10.0 / 20.0)
      else h
    if r.style.wide || r.style.wideLine then h * 2.0 else h

theorem horizontalPoints_wantedFont (r : Registers) :
    r.wantedFont.horizontalPoints =
      if r.style.script then r.unscriptedPoints * (2.0 / 3.0) else r.unscriptedPoints := by
  unfold wantedFont unscriptedPoints
  dsimp only
  cases r.multipoint with
  | true => cases r.style.script <;> rfl
  | false =>
    generalize (r.style.wide || r.style.wideLine) = wide
    generalize (r.cpi == 10.0) = ten
    generalize (r.cpi == 12.0) = twelve
    -- The sizes are left as they are written: only the choices between them are looked at.
    simp only [Bool.false_eq_true, if_false]
    cases r.style.script <;> cases wide <;> cases r.style.proportional <;>
      cases r.style.condensed <;> cases ten <;> cases twelve <;>
      simp only [Bool.false_eq_true, Bool.and_true, Bool.and_false, if_true, if_false]

theorem within_unscriptedPoints (bounded : r.steps.Bounded) :
    Within 0.0 64.0 r.unscriptedPoints := by
  unfold unscriptedPoints
  by_cases apart : r.multipoint = true
  · rw [if_pos apart]
    exact bounded.multiPoints.weaken (by decide)
  · rw [if_neg apart]
    have ten : Within 10.0 10.0 10.0 := by decide
    have base : Within 10.5 10.5 10.5 := by decide
    have share : Within 0.0 1.0 (10.0 / r.cpi) := ten.div bounded.cpi (by decide) (by decide)
    have own : Within 0.0 10.5 (if r.style.condensed then 10.5 else 10.5 * (10.0 / r.cpi)) := by
      split
      · decide
      · exact base.mul share (by decide) (by decide)
    generalize (if r.style.condensed then (10.5 : Float) else 10.5 * (10.0 / r.cpi)) = h at own
    have condensed {way : Float} (less : Within 0.0 1.0 way) : Within 0.0 10.5 (h * way) :=
      own.mul less (by decide) (by decide)
    have half : Within 0.0 10.5 (h / 2.0) :=
      own.div (by decide : Within 2.0 2.0 2.0) (by decide) (by decide)
    dsimp only
    have narrow : Within 0.0 10.5 (if r.style.proportional then
          (if r.style.condensed then h / 2.0 else h)
        else if r.style.condensed && r.cpi == 10.0 then h * (10.0 / 17.14)
        else if r.style.condensed && r.cpi == 12.0 then h * (10.0 / 20.0)
        else h) := by
      split
      · split
        · exact half
        · exact own
      · split
        · exact condensed (by decide)
        · split
          · exact condensed (by decide)
          · exact own
    split
    · exact narrow.mul (by decide : Within 2.0 2.0 2.0) (by decide) (by decide)
    · exact narrow.weaken (by decide)

/-- A font is not larger than twice the largest size that can be asked for. -/
theorem within_horizontalPoints_wantedFont (bounded : r.steps.Bounded) :
    Within 0.0 64.0 r.wantedFont.horizontalPoints := by
  have unscripted := within_unscriptedPoints bounded
  have share : Within (2.0 / 3.0) (2.0 / 3.0) (2.0 / 3.0) := by decide
  rw [horizontalPoints_wantedFont]
  split
  · exact unscripted.mul share (by decide) (by decide)
  · exact unscripted

theorem within_cpi_wantedFont (bounded : r.steps.Bounded) :
    Within 0.001 1000.0 r.wantedFont.cpi := by
  have unscripted := within_unscriptedCpi bounded
  have share : Within (2.0 / 3.0) (2.0 / 3.0) (2.0 / 3.0) := by decide
  rw [cpi_wantedFont]
  split
  · exact unscripted.div share (by decide) (by decide)
  · exact unscripted.weaken (by decide)

/-- At fixed pitch a character takes one step. -/
theorem isStep_fixedAdvance (bounded : r.steps.Bounded) (current : r.FontCurrent) :
    IsStep r.fixedAdvance := by
  have cpi := within_cpi_wantedFont bounded
  rw [← current] at cpi
  unfold fixedAdvance
  cases index : r.motionIndex with
  | none =>
    have one : Within 1.0 1.0 1.0 := by decide
    exact one.div cpi (by decide) (by decide)
  | some way => exact bounded.motionIndex way index

end Registers

end PinPrinter
