import PinPrinter.Proofs.Registers.Steps

/-! # The page and its margins

Every register of the page is set by a few instructions, each with a check of its own. Together they
keep the left margin left of the right one and both on the page, and neither the top margin above
the page nor the bottom margin below it. That the top margin lies above the bottom one is not among
what they keep.
-/

namespace PinPrinter

open Binary64

/-- The registers that say where the page and its margins lie. -/
structure Frame where
  paperWidth : Float
  paperHeight : Float
  pageWidth : Float
  pageHeight : Float
  topMargin : Float
  bottomMargin : Float
  leftMargin : Float
  rightMargin : Float

namespace Frame

/-- The length of the longest page that can be asked for. -/
def longest : Float := 4294967296.0

theorem within_zero : Within 0.0 longest 0.0 := by
  decide

/-- The page is not empty, and its margins are where a page can have them. -/
structure Sound (f : Frame) : Prop where
  paperWidth : Within 0.1 65536.0 f.paperWidth
  paperHeight : Within 0.1 65536.0 f.paperHeight
  left_nonneg : 0.0 ≤ f.leftMargin
  left_lt_right : f.leftMargin < f.rightMargin
  right_le : f.rightMargin ≤ f.pageWidth
  pageWidth_le : f.pageWidth ≤ 65536.0
  top : Within 0.0 longest f.topMargin
  bottom_le : f.bottomMargin ≤ f.pageHeight
  pageHeight_pos : 0.0 < f.pageHeight
  pageHeight_le : f.pageHeight ≤ longest

variable {f : Frame}

theorem Sound.pageHeight (sound : f.Sound) : Within 0.0 longest f.pageHeight :=
  ⟨le_of_lt sound.pageHeight_pos, sound.pageHeight_le, by decide, by decide⟩

theorem Sound.right_le_farthest (sound : f.Sound) : f.rightMargin ≤ farthest :=
  le_trans sound.right_le (le_trans sound.pageWidth_le (by decide))

theorem Sound.left (sound : f.Sound) : Within 0.0 farthest f.leftMargin :=
  ⟨sound.left_nonneg, le_trans (le_of_lt sound.left_lt_right) sound.right_le_farthest, by decide,
    by decide⟩

/-- A longer or shorter page ends at its bottom margin. -/
theorem Sound.with_pageHeight (sound : f.Sound) {height : Float} (positive : 0.0 < height)
    (most : height ≤ longest) : { f with pageHeight := height, bottomMargin := height }.Sound :=
  { sound with
    bottom_le := le_refl (le_iff.mp most).1
    pageHeight_pos := positive
    pageHeight_le := most }

theorem Sound.without_topMargin (sound : f.Sound) : { f with topMargin := 0.0 }.Sound :=
  { sound with top := within_zero }

end Frame

theorem IsStep.way {way : Float} (step : IsStep way) : Within 0.0 Frame.longest way :=
  step.weaken (by decide)

/-- A count of steps. -/
theorem IsStep.mul {n : Nat} {way : Float} (step : IsStep way) (small : n < 65536) :
    Within 0.0 Frame.longest (Float.ofNat n * way) :=
  Within.mul (isStep_ofNat small) step (by decide) (by decide)

namespace Registers

variable {r : Registers}

/-- Where the page and its margins lie. -/
def frame (r : Registers) : Frame where
  paperWidth := r.paperWidth
  paperHeight := r.paperHeight
  pageWidth := r.pageWidth
  pageHeight := r.pageHeight
  topMargin := r.topMargin
  bottomMargin := r.bottomMargin
  leftMargin := r.leftMargin
  rightMargin := r.rightMargin

/-! ## What leaves the frame alone -/

theorem tableless_frame : Tableless frame :=
  fun _ _ _ _ _ => rfl

theorem frame_obey {instruction : Instruction} (other : instruction.setsPage = false) :
    (r.obey instruction).frame = r.frame := by
  cases instruction with
  | tabEvery axis count => cases axis <;> rfl
  | extraSpace count => exact view_ite rfl rfl
  | wideLine => exact view_ite rfl rfl
  | condensed => exact view_ite rfl rfl
  | wide on => cases on <;> exact view_ite rfl rfl
  | tall on => exact view_ite rfl rfl
  | underline on => cases on <;> rfl
  | selectTable slot => exact tableless_frame.obey_selectTable r slot
  | assignTable slot selector => exact tableless_frame.obey_assignTable r slot selector
  | _ => first | contradiction | rfl

theorem frame_control (r : Registers) (autofeed : Bool) (code : Control) :
    (r.control autofeed code).frame = r.frame :=
  Unstyled.control (fun _ _ _ _ => rfl) r autofeed code

theorem frame_setTabs (r : Registers) (axis : TabAxis) (stops : List UInt8) :
    (r.setTabs axis stops).frame = r.frame := by
  cases axis with
  | horizontal => rfl
  | vertical => rfl

/-! ## What keeps the frame sound -/

/-- A change that is made where it is accepted. -/
theorem sound_ite {c : Prop} [Decidable c] {yes no : Registers} (accepted : c → yes.frame.Sound)
    (refused : no.frame.Sound) : (if c then yes else no).frame.Sound := by
  by_cases chosen : c
  · rw [if_pos chosen]
    exact accepted chosen
  · rwa [if_neg chosen]

theorem sound_powerOn {width height : Float} (wide : Within 0.1 65536.0 width)
    (high : Within 0.1 65536.0 height) : (powerOn width height).frame.Sound := by
  have positive {x : Float} (size : Within 0.1 65536.0 x) : 0.0 < x :=
    lt_of_lt_of_le (by decide) size.least
  exact
    { paperWidth := wide
      paperHeight := high
      left_nonneg := Frame.within_zero.least
      left_lt_right := positive wide
      right_le := le_refl wide.number
      pageWidth_le := wide.most
      top := Frame.within_zero
      bottom_le := le_refl high.number
      pageHeight_pos := positive high
      pageHeight_le := le_trans high.most (by decide) }

/-! ## The length of the page -/

theorem sound_setPageHeight (sound : r.frame.Sound) {height : Float}
    (most : height ≤ Frame.longest) : (r.setPageHeight height).frame.Sound :=
  sound_ite (fun positive => sound.with_pageHeight positive most) sound

theorem sound_setBottomMargin (sound : r.frame.Sound) (bounded : r.steps.Bounded) {lines : Nat}
    (small : lines < 65536) : (r.setBottomMargin lines).frame.Sound := by
  have margin := bounded.lineSpacing.mul small
  apply sound_ite ?_ sound
  intro _
  exact { sound with bottom_le := sub_le_self sound.pageHeight.finite margin.finite margin.least }

theorem sound_setPageFormat (sound : r.frame.Sound) (bounded : r.steps.Bounded) {top : Nat}
    (small : top < 65536) (bottom : Nat) : (r.setPageFormat top bottom).frame.Sound := by
  cases defined : r.unit with
  | none =>
    simp only [setPageFormat, defined]
    exact sound
  | some unit =>
    have margin := (bounded.unit unit defined).mul small
    rw [setPageFormat_of_unit defined]
    split
    · exact sound
    · have topped : (if Float.ofNat top * unit < r.pageHeight
          then { r with topMargin := Float.ofNat top * unit } else r).frame.Sound :=
        sound_ite (fun _ => { sound with top := margin }) sound
      apply sound_ite ?_ topped
      intro inside
      exact { topped with bottom_le := le_of_lt inside }

/-! ## The side margins -/

theorem sound_setRightMargin (sound : r.frame.Sound) (column : Nat) :
    (r.setRightMargin column).frame.Sound := by
  unfold setRightMargin
  apply sound_ite ?_ sound
  rintro ⟨-, right⟩
  have width : IsNumber r.pageWidth := (le_iff.mp sound.right_le).2.1
  by_cases beyond : r.pageWidth < (Float.ofNat column - 1.0) / r.cpi
  · rw [if_pos beyond]
    exact { sound with
      left_lt_right := lt_of_lt_of_le sound.left_lt_right sound.right_le
      right_le := le_refl width }
  · rw [if_neg beyond]
    exact { sound with
      left_lt_right := right
      right_le := le_of_not_lt width (lt_iff.mp right).2.1 beyond }

theorem isStep_leftMarginAt (bounded : r.steps.Bounded) {column : Nat} (small : column < 65536) :
    IsStep (r.leftMarginAt column) := by
  have columns : Within 1.0 65536.0 (Float.ofNat (max column 1)) :=
    within_ofNat (le_max_right column 1) (by omega : max column 1 ≤ 65536) (by decide)
  have one : Within 1.0 1.0 1.0 := by decide
  have before : IsStep (Float.ofNat (max column 1) - 1.0) := columns.sub one (by decide)
  exact before.div bounded.cpi (by decide) (by decide)

theorem sound_setLeftMargin (sound : r.frame.Sound) (bounded : r.steps.Bounded) {column : Nat}
    (small : column < 65536) : (r.setLeftMargin column).frame.Sound := by
  apply sound_ite ?_ sound
  intro left
  exact { sound with
    left_nonneg := (isStep_leftMarginAt bounded small).least
    left_lt_right := left }

/-! ## Obeying -/

theorem sound_obey (sound : r.frame.Sound) (bounded : r.steps.Bounded) {instruction : Instruction}
    (inRange : instruction.InRange) : (r.obey instruction).frame.Sound := by
  cases instruction with
  | restart => exact sound_powerOn sound.paperWidth sound.paperHeight
  | pageLines lines => exact sound_setPageHeight sound (bounded.lineSpacing.mul inRange).most
  | pageInches inches =>
    have topped : { r with topMargin := 0.0 }.frame.Sound := sound.without_topMargin
    exact sound_setPageHeight topped (isStep_ofNat inRange).way.most
  | pageUnits count =>
    simp only [obey]
    cases defined : r.unit with
    | none => exact sound
    | some unit =>
      have length := (bounded.unit unit defined).mul inRange
      exact sound_ite
        (fun _ => (sound_setPageHeight sound length.most).without_topMargin) sound
  | pageFormat top bottom => exact sound_setPageFormat sound bounded inRange.1 bottom
  | bottomMargin lines => exact sound_setBottomMargin sound bounded inRange
  | cancelMargins =>
    exact { sound.without_topMargin with bottom_le := le_refl sound.pageHeight.number }
  | rightMargin column => exact sound_setRightMargin sound column
  | leftMargin column => exact sound_setLeftMargin sound bounded inRange
  | _ =>
    rw [frame_obey rfl]
    exact sound

/-! ## The registers of a printer -/

/-- What all commands keep of the registers: the steps are bounded, the page and its margins are
sound, and the font is up to date. -/
structure Sound (r : Registers) : Prop where
  steps : r.steps.Bounded
  frame : r.frame.Sound
  font : r.FontCurrent

theorem Sound.obey (sound : r.Sound) {instruction : Instruction} (inRange : instruction.InRange) :
    (r.obey instruction).Sound where
  steps := bounded_obey sound.steps inRange
  frame := sound_obey sound.frame sound.steps inRange
  font := sound.font.obey instruction

theorem Sound.restore (sound : r.Sound) : r.restore.Sound where
  steps := bounded_powerOn _ _
  frame := sound_powerOn sound.frame.paperWidth sound.frame.paperHeight
  font := fontCurrent_powerOn _ _

theorem Sound.control (sound : r.Sound) (autofeed : Bool) (code : Control) :
    (r.control autofeed code).Sound where
  steps := bounded_control sound.steps autofeed code
  frame := (frame_control r autofeed code).symm ▸ sound.frame
  font := sound.font.control autofeed code

theorem Sound.setTabs (sound : r.Sound) (axis : TabAxis) (stops : List UInt8) :
    (r.setTabs axis stops).Sound where
  steps := bounded_setTabs sound.steps axis stops
  frame := (frame_setTabs r axis stops).symm ▸ sound.frame
  font := sound.font.setTabs axis stops

end Registers

/-- An accepted configuration has pixels, and paper of at least a tenth of an inch. -/
theorem Config.of_fault? {c : Config} (accepted : c.fault? = none) :
    0 < c.dpi.toNat ∧ 0 < c.width.toNat ∧ 0 < c.height.toNat := by
  unfold fault? at accepted
  split at accepted
  · cases accepted
  · rename_i dpi
    split at accepted
    · cases accepted
    · rename_i size
      rw [not_or] at size
      have positive {n : UInt16} (nonzero : ¬ n = 0) : 0 < n.toNat :=
        Nat.pos_of_ne_zero fun zero => nonzero (UInt16.toNat_inj.mp zero)
      exact ⟨positive dpi, positive size.1, positive size.2⟩

theorem Config.within_tenths {tenths : UInt16} (positive : 0 < tenths.toNat) :
    Within 0.1 65536.0 (Float.ofNat tenths.toNat / 10.0) := by
  have count : Within 1.0 65536.0 (Float.ofNat tenths.toNat) :=
    within_ofNat positive tenths.toNat_lt.le (by decide)
  have ten : Within 10.0 10.0 10.0 := by decide
  exact count.div ten (by decide) (by decide)

namespace Printer

variable {config : Config} {host : Host} {folder : Folder} {p : Printer}

theorem sound_of_new (started : Printer.new config host folder = .ok p) : p.registers.Sound := by
  obtain ⟨-, width, height⟩ := Config.of_fault? (accepted_of_new started)
  obtain rfl := eq_powerOn_of_new started
  exact
    { steps := Registers.bounded_powerOn _ _
      frame := Registers.sound_powerOn (Config.within_tenths width) (Config.within_tenths height)
      font := Registers.fontCurrent_powerOn _ _ }

theorem sound_run (sound : p.registers.Sound) (events : List Event) :
    (p.run events).registers.Sound := by
  have receive : ∀ i autofeed byte, (Interpreter.registers i).Sound →
      (Interpreter.receive i autofeed byte).1.registers.Sound :=
    Interpreter.holds_receive_of_command
      (fun r c params sound => sound.obey (Instruction.inRange_ofCommand c params))
      (fun r autofeed code sound => sound.control autofeed code)
      (fun r axis stops sound => sound.setTabs axis stops)
  have restart (i : Interpreter) (sound : i.registers.Sound) : i.restart.registers.Sound :=
    sound.restore
  exact holds_interpreter_run receive restart sound events

theorem Reachable.sound (reachable : p.Reachable) : p.registers.Sound := by
  obtain ⟨config, host, folder, start, events, started, rfl⟩ := (reachable_iff p).mp reachable
  exact sound_run (sound_of_new started) events

end Printer

end PinPrinter
