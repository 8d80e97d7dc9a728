import PinPrinter.Proofs.Printer.Layout
import PinPrinter.Proofs.Registers.Frame

/-! # Motions keep to the margins

The pen stays right of the left margin and below the top margin. Every motion has a guard of its
own: some are refused where they would leave the margins, some stop at a margin, and those that go
on leave the sheet at the bottom margin. Where a margin moves, the pen moves with it.
-/

namespace PinPrinter

open Binary64

/-- The pen is right of the left margin and below the top margin, and not off the range of
places. -/
structure Pen.Placed (r : Registers) (pen : Pen) : Prop where
  x : Within r.leftMargin farthest pen.x
  y : Within r.topMargin Frame.longest pen.y

/-- A motion ends within the margins. -/
def Motion.Placed (r : Registers) (motion : Motion) : Prop :=
  Pen.Placed r (motion.landing r)

namespace Registers

variable {r s : Registers} {pen : Pen} {autofeed : Bool}

theorem placed_congr (placed : pen.Placed r) (same : s.frame = r.frame) : pen.Placed s := by
  have left : s.leftMargin = r.leftMargin := congrArg Frame.leftMargin same
  have top : s.topMargin = r.topMargin := congrArg Frame.topMargin same
  constructor
  · rw [left]
    exact placed.x
  · rw [top]
    exact placed.y

theorem lt_of_nextVerticalTab? {y stop : Float} (found : r.nextVerticalTab? y = some stop) :
    y < stop := by
  unfold nextVerticalTab? at found
  split at found
  · have below := List.find?_some found
    exact of_decide_eq_true below
  · cases found

theorem between_of_nextHorizontalTab? {x stop : Float}
    (found : r.nextHorizontalTab? x = some stop) :
    x < stop ∧ stop < r.rightMargin := by
  have both := List.find?_some found
  rw [Bool.and_eq_true] at both
  exact ⟨of_decide_eq_true both.1, of_decide_eq_true both.2⟩

section Guards

variable (sound : r.Sound)

include sound

/-- A place between the side margins. -/
theorem within_of_sides {x : Float} (least : r.leftMargin ≤ x) (most : x ≤ r.rightMargin) :
    Within r.leftMargin farthest x :=
  ⟨least, le_trans most sound.frame.right_le_farthest, sound.frame.left.finite, by decide⟩

theorem within_left : Within r.leftMargin farthest r.leftMargin :=
  within_of_sides sound (le_refl sound.frame.left.number) (le_of_lt sound.frame.left_lt_right)

theorem within_top : Within r.topMargin Frame.longest r.topMargin :=
  ⟨le_refl sound.frame.top.number, sound.frame.top.most, sound.frame.top.finite, by decide⟩

theorem placed_home : r.home.Placed r :=
  ⟨within_left sound, within_top sound⟩

/-- A new sheet starts at the top margin. -/
theorem placed_turn {x : Float} (within : Within r.leftMargin farthest x) :
    (Motion.turn x).Placed r :=
  ⟨within, within_top sound⟩

/-- A place above the bottom margin is on the page. -/
theorem within_of_bottom {y : Float} (least : r.topMargin ≤ y) (most : y ≤ r.bottomMargin) :
    Within r.topMargin Frame.longest y :=
  ⟨least, le_trans most (le_trans sound.frame.bottom_le sound.frame.pageHeight_le),
    sound.frame.top.finite, by decide⟩

/-- Below the bottom margin the pen goes on at the top margin of the next sheet. -/
theorem placed_drop {pen : Pen} (x : Within r.leftMargin farthest pen.x)
    (below : r.topMargin ≤ pen.y) : (r.drop pen).Placed r := by
  unfold drop
  by_cases off : pen.y > r.bottomMargin
  · rw [if_pos off]
    exact placed_turn sound x
  · rw [if_neg off]
    have bottom : IsNumber r.bottomMargin := (le_iff.mp sound.frame.bottom_le).1
    exact ⟨x, within_of_bottom sound below (le_of_not_lt bottom (le_iff.mp below).2.1 off)⟩

variable (placed : pen.Placed r)

include placed

/-- Down by a way, at a place that is right of the left margin. -/
theorem placed_drop_add {x way : Float} (within : Within r.leftMargin farthest x)
    (down : Within 0.0 Frame.longest way) : (r.drop ⟨x, pen.y + way⟩).Placed r :=
  placed_drop sound within
    (le_trans placed.y.least (le_add_of_nonneg placed.y.finite down.finite down.least))

theorem placed_newLine : (r.newLine pen).Placed r :=
  placed_drop_add sound placed (within_left sound) sound.steps.lineSpacing.way

/-! ## Control codes -/

theorem placed_verticalTab : (r.verticalTab pen).Placed r := by
  unfold verticalTab
  cases r.verticalTabs with
  | unset => exact placed_newLine sound placed
  | stops positions =>
    cases positions with
    | nil => exact ⟨within_left sound, placed.y⟩
    | cons first rest =>
      dsimp only
      cases found : r.nextVerticalTab? pen.y with
      | none => exact placed_turn sound placed.x
      | some stop =>
        have below := lt_of_nextVerticalTab? found
        dsimp only
        by_cases inside : stop ≤ r.bottomMargin
        · rw [if_pos inside]
          exact ⟨placed.x,
            within_of_bottom sound (le_trans placed.y.least (le_of_lt below)) inside⟩
        · rw [if_neg inside]
          exact placed_turn sound placed.x

theorem placed_backspace : (r.controlMotion autofeed pen .backspace).Placed r := by
  have step := isStep_fixedAdvance sound.steps sound.font
  have back := sub_le_self placed.x.finite step.finite step.least
  unfold controlMotion
  dsimp only
  by_cases inside : pen.x - r.fixedAdvance ≥ r.leftMargin
  · rw [if_pos inside]
    exact ⟨⟨inside, le_trans back placed.x.most, placed.x.low, placed.x.high⟩, placed.y⟩
  · rw [if_neg inside]
    exact placed

theorem placed_horizontalTab : (r.controlMotion autofeed pen .horizontalTab).Placed r := by
  unfold controlMotion
  dsimp only
  cases found : r.nextHorizontalTab? pen.x with
  | none => exact placed
  | some stop =>
    obtain ⟨right, inside⟩ := between_of_nextHorizontalTab? found
    exact ⟨within_of_sides sound (le_trans placed.x.least (le_of_lt right)) (le_of_lt inside),
      placed.y⟩

theorem placed_control (code : Control) : (r.controlMotion autofeed pen code).Placed r := by
  have returned : (Motion.to ⟨r.leftMargin, pen.y⟩).Placed r := ⟨within_left sound, placed.y⟩
  cases code with
  | backspace => exact placed_backspace sound placed
  | horizontalTab => exact placed_horizontalTab sound placed
  | verticalTab => exact placed_verticalTab sound placed
  | formFeed => exact placed_turn sound (within_left sound)
  | lineFeed => exact placed_newLine sound placed
  | carriageReturn =>
    cases autofeed with
    | true => exact placed_newLine sound placed
    | false => exact returned
  | _ => exact placed

/-! ## Instructions that move the pen -/

theorem placed_absoluteX {count : Nat} (small : count < 65536) :
    (r.motion pen (.absoluteX count)).Placed r := by
  have way := (isStep_absoluteUnit sound.steps).mul small
  have ahead := le_add_of_nonneg sound.frame.left.finite way.finite way.least
  unfold motion
  dsimp only
  split
  · rename_i inside
    exact ⟨within_of_sides sound ahead inside, placed.y⟩
  · exact placed

theorem placed_relativeX (count : Int) : (r.motion pen (.relativeX count)).Placed r := by
  unfold motion
  dsimp only
  split
  · rename_i inside
    exact ⟨within_of_sides sound inside.1 inside.2, placed.y⟩
  · exact placed

theorem placed_skipColumns {count : Nat} (small : count < 65536) :
    (r.motion pen (.skipColumns count)).Placed r := by
  have way := (isStep_fixedAdvance sound.steps sound.font).mul small
  have ahead := le_add_of_nonneg placed.x.finite way.finite way.least
  unfold motion
  dsimp only
  split
  · rename_i inside
    exact ⟨within_of_sides sound (le_trans placed.x.least ahead) inside, placed.y⟩
  · exact placed

theorem placed_relativeY (count : Int) : (r.motion pen (.relativeY count)).Placed r := by
  unfold motion
  dsimp only
  split
  · rename_i below
    exact placed_drop sound placed.x (le_of_lt below)
  · exact placed

theorem placed_absoluteY {count : Nat} (small : count < 65536) :
    (r.motion pen (.absoluteY count)).Placed r := by
  have way := (isStep_verticalUnit sound.steps).mul small
  exact placed_drop sound placed.x
    (le_add_of_nonneg sound.frame.top.finite way.finite way.least)

/-- The paper is not moved back beyond the top margin. -/
theorem placed_reverse {distance : Float} (way : Within 0.0 Frame.longest distance) :
    (Motion.to (r.reverse pen distance)).Placed r := by
  have back := sub_le_self placed.y.finite way.finite way.least
  refine ⟨placed.x, ?_⟩
  change Within r.topMargin Frame.longest (if _ then _ else _)
  split
  · exact within_top sound
  · rename_i inside
    have number := (le_iff.mp back).1
    exact ⟨le_of_not_lt number sound.frame.top.number inside, le_trans back placed.y.most,
      placed.y.low, placed.y.high⟩

/-- Where an instruction does not move a margin, its motion ends within the margins. -/
theorem placed_motion {instruction : Instruction} (inRange : instruction.InRange)
    (left : ∀ column, instruction ≠ .leftMargin column)
    (top : ∀ top bottom, instruction ≠ .pageFormat top bottom) :
    (r.motion pen instruction).Placed r := by
  cases instruction with
  | leftMargin column => exact absurd rfl (left column)
  | pageFormat top_ bottom => exact absurd rfl (top top_ bottom)
  | absoluteX count => exact placed_absoluteX sound placed inRange
  | relativeX count => exact placed_relativeX sound placed count
  | skipColumns count => exact placed_skipColumns sound placed inRange
  | skipLines count =>
    exact placed_drop_add sound placed (within_left sound)
      (sound.steps.lineSpacing.mul inRange)
  | advance count =>
    have parts : Within 1.0 65536.0 180.0 := by decide
    exact placed_drop_add sound placed placed.x (isStep_div inRange parts).way
  | reverse count =>
    have parts : Within 1.0 65536.0 216.0 := by decide
    exact placed_reverse sound placed (isStep_div inRange parts).way
  | reverseLine => exact placed_reverse sound placed sound.steps.lineSpacing.way
  | topOfSheet => exact ⟨placed.x, within_top sound⟩
  | absoluteY count => exact placed_absoluteY sound placed inRange
  | relativeY count => exact placed_relativeY sound placed count
  | ejectSheet => exact placed_turn sound placed.x
  | restart => exact placed_home sound
  | _ => exact placed

/-- After a character the pen is left of the right margin, or at the start of the next line. -/
theorem placed_wrap {advance : Float} (way : Within 0.0 36893488147419103232.0 advance) :
    (r.wrap ⟨pen.x + advance, pen.y⟩ advance).Placed r := by
  have ahead := le_add_of_nonneg placed.x.finite way.finite way.least
  have wide : Within 0.0 farthest pen.x :=
    ⟨le_trans sound.frame.left_nonneg placed.x.least, placed.x.most, by decide, placed.x.high⟩
  have further : Within 0.0 73786976294838206464.0 (pen.x + advance) :=
    wide.add way (by decide)
  have next := le_add_of_nonneg further.finite way.finite way.least
  unfold wrap
  dsimp only
  split
  · exact placed_drop_add sound placed (within_left sound) sound.steps.lineSpacing.way
  · rename_i inside
    have right : IsNumber r.rightMargin := (le_iff.mp sound.frame.right_le).1
    have most := le_of_not_lt right (le_iff.mp next).2.1 inside
    exact ⟨within_of_sides sound (le_trans placed.x.least ahead) (le_trans next most), placed.y⟩

end Guards

/-! ## Instructions that move a margin -/

theorem placed_ite {c : Prop} [Decidable c] {yes no : Registers} (accepted : pen.Placed yes)
    (refused : pen.Placed no) : pen.Placed (if c then yes else no) := by
  split
  · exact accepted
  · exact refused

section Margins

variable (sound : r.Sound) (placed : pen.Placed r)

include placed

/-- The top margin takes the pen with it. -/
theorem placed_pageFormat {top bottom : Nat} (after : (r.setPageFormat top bottom).Sound) :
    Pen.Placed (r.setPageFormat top bottom)
      ((r.setPageFormat top bottom).afterPageFormat pen top bottom) := by
  have units : (r.setPageFormat top bottom).unit = r.unit :=
    congrArg Steps.unit (pageless_steps.setPageFormat r top bottom)
  cases defined : r.unit with
  | none =>
    have kept : r.setPageFormat top bottom = r := by simp only [setPageFormat, defined]
    rw [kept]
    unfold afterPageFormat
    rw [defined]
    exact placed
  | some unit =>
    have ordered := setPageFormat_of_unit defined top bottom
    unfold afterPageFormat
    rw [units, defined]
    dsimp only
    by_cases disorder : Float.ofNat top * unit ≥ Float.ofNat bottom * unit
    · rw [if_pos disorder] at ordered
      rw [if_pos disorder, ordered]
      exact placed
    · have left : (r.setPageFormat top bottom).leftMargin = r.leftMargin := by
        rw [ordered, if_neg disorder]
        dsimp only
        split <;> split <;> rfl
      rw [if_neg disorder]
      have x : Within (r.setPageFormat top bottom).leftMargin farthest pen.x := left ▸ placed.x
      by_cases above : pen.y < (r.setPageFormat top bottom).topMargin
      · rw [if_pos above]
        exact ⟨x, within_top after⟩
      · rw [if_neg above]
        have number := after.frame.top.number
        exact ⟨x, le_of_not_lt placed.y.number number above, placed.y.most,
          after.frame.top.finite, placed.y.high⟩

include sound

/-- The left margin takes the pen with it. -/
theorem placed_leftMargin {column : Nat} (small : column < 65536) :
    Pen.Placed (r.setLeftMargin column) ((r.setLeftMargin column).afterLeftMargin pen column) := by
  have left := isStep_leftMarginAt sound.steps small
  by_cases inside : r.leftMarginAt column < r.rightMargin
  · have moved : r.setLeftMargin column = { r with leftMargin := r.leftMarginAt column } :=
      if_pos inside
    have place : Within (r.leftMarginAt column) farthest (r.leftMarginAt column) :=
      ⟨le_refl left.number, le_trans left.most (by decide), left.finite, by decide⟩
    rw [moved]
    change Pen.Placed _ (if r.leftMarginAt column < r.rightMargin ∧ pen.x < r.leftMarginAt column
      then ⟨r.leftMarginAt column, pen.y⟩ else pen)
    by_cases behind : pen.x < r.leftMarginAt column
    · rw [if_pos ⟨inside, behind⟩]
      exact ⟨place, placed.y⟩
    · rw [if_neg fun both => behind both.2]
      exact ⟨⟨le_of_not_lt placed.x.number left.number behind, placed.x.most, left.finite,
        placed.x.high⟩, placed.y⟩
  · have kept : r.setLeftMargin column = r := if_neg inside
    have still : r.afterLeftMargin pen column = pen := if_neg fun both => inside both.1
    rw [kept, still]
    exact placed

/-- Whatever an instruction does to the margins, its motion ends within them. -/
theorem placed_obey {instruction : Instruction} (inRange : instruction.InRange) :
    ((r.obey instruction).motion pen instruction).Placed (r.obey instruction) := by
  have after := sound.obey inRange
  have untopped : Within 0.0 Frame.longest pen.y :=
    ⟨le_trans sound.frame.top.least placed.y.least, placed.y.most, by decide, placed.y.high⟩
  cases instruction with
  | leftMargin column => exact placed_leftMargin sound placed inRange
  | pageFormat top bottom => exact placed_pageFormat placed after
  | restart => exact placed_home after
  | pageLines lines => exact placed_ite ⟨placed.x, placed.y⟩ placed
  | pageInches inches => exact placed_ite ⟨placed.x, untopped⟩ ⟨placed.x, untopped⟩
  | pageUnits count =>
    have kept (height : Float) : (r.setPageHeight height).leftMargin = r.leftMargin := by
      unfold setPageHeight
      split <;> rfl
    change pen.Placed (r.obey (.pageUnits count))
    simp only [obey]
    cases r.unit with
    | none => exact placed
    | some unit => exact placed_ite ⟨(kept _).symm ▸ placed.x, untopped⟩ placed
  | cancelMargins => exact ⟨placed.x, untopped⟩
  | bottomMargin lines => exact placed_ite ⟨placed.x, placed.y⟩ placed
  | rightMargin column => exact placed_ite ⟨placed.x, placed.y⟩ placed
  | _ =>
    apply placed_motion after (placed_congr placed (frame_obey rfl)) inRange
    · rintro _ ⟨⟩
    · rintro _ _ ⟨⟩

end Margins

end Registers

end PinPrinter
