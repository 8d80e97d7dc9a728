import PinPrinter.Proofs.Printer.Reachable
import PinPrinter.Proofs.Registers.View

/-! # The font is never stale

The font follows from pitch, point size, style, typeface and active table. Whatever changes one of
these brings the font up to date as well, so in no reachable printer would doing it once more change
anything.
-/

namespace PinPrinter

namespace Registers

/-- The font is the one that the other registers ask for. -/
def FontCurrent (r : Registers) : Prop :=
  r.font = r.wantedFont

/-- The code page of the active table. -/
def activePage (r : Registers) : Nat :=
  r.tables.get r.activeTable

/-- The registers that the font follows from are the same. -/
structure SameFontSources (first second : Registers) : Prop where
  typeface : first.typeface = second.typeface
  cpi : first.cpi = second.cpi
  style : first.style = second.style
  multipoint : first.multipoint = second.multipoint
  multiCpi : first.multiCpi = second.multiCpi
  multiPoints : first.multiPoints = second.multiPoints
  activePage : first.activePage = second.activePage

/-- The font follows from its sources alone. -/
theorem SameFontSources.wantedFont {first second : Registers}
    (same : SameFontSources first second) : first.wantedFont = second.wantedFont := by
  obtain ⟨typeface, cpi, style, multipoint, multiCpi, multiPoints, activePage⟩ := same
  have codePage : first.tables[first.activeTable] = second.tables[second.activeTable] := activePage
  simp only [Registers.wantedFont, typeface, cpi, style, multipoint, multiCpi, multiPoints,
    codePage]

variable {r : Registers}

theorem FontCurrent.updateFont (current : FontCurrent r) : r.updateFont = r := by
  rw [Registers.updateFont, ← current]

/-- Bringing the font up to date changes none of its sources. -/
theorem fontCurrent_updateFont (r : Registers) : FontCurrent r.updateFont :=
  rfl

theorem fontCurrent_powerOn (width height : Float) : FontCurrent (powerOn width height) := by
  unfold powerOn
  exact fontCurrent_updateFont _

/-! ## Changes that are refused -/

/-- A choice between settings is current if both are. -/
theorem FontCurrent.ite {c : Prop} [Decidable c] {yes no : Registers} (isYes : FontCurrent yes)
    (isNo : FontCurrent no) : FontCurrent (if c then yes else no) := by
  by_cases chosen : c
  · rwa [if_pos chosen]
  · rwa [if_neg chosen]

/-! ## Obeying -/

theorem pageless_fontCurrent : Pageless FontCurrent :=
  fun _ _ _ _ _ _ => rfl

theorem FontCurrent.setWide (current : FontCurrent r) (on : Option Bool) :
    FontCurrent (r.setWide on) := by
  cases on with
  | none => exact .ite current current
  | some on => exact .ite current (fontCurrent_updateFont _)

theorem FontCurrent.obey (current : FontCurrent r) (instruction : Instruction) :
    FontCurrent (r.obey instruction) := by
  cases instruction with
  | restart => exact fontCurrent_powerOn _ _
  | lineSpacing count perInch => exact current
  | forwardSpacing => exact current
  | pageLines _ | pageInches _ | pageUnits _ | pageFormat _ _ | bottomMargin _ | cancelMargins
  | rightMargin _ | leftMargin _ =>
    rw [pageless_fontCurrent.obey r]
    · exact current
    · rfl
    · nofun
  | defineUnit count => exact current
  | motionIndex count => exact current
  | extraSpace count => exact .ite current (fontCurrent_updateFont _)
  | tabEvery axis count => cases axis <;> exact current
  | pitch cpi => exact fontCurrent_updateFont _
  | masterSelect bits => exact fontCurrent_updateFont _
  | pitchAndPoint pitch halfPoints => exact fontCurrent_updateFont _
  | proportional on => exact fontCurrent_updateFont _
  | letterQuality on => exact fontCurrent_updateFont _
  | wideLine => exact .ite current (fontCurrent_updateFont _)
  | condensed => exact .ite current (fontCurrent_updateFont _)
  | bold on => exact fontCurrent_updateFont _
  | doubleStrike on => exact fontCurrent_updateFont _
  | italic on => exact fontCurrent_updateFont _
  | underline on => exact fontCurrent_updateFont _
  | score line place => exact fontCurrent_updateFont _
  | script raised => exact fontCurrent_updateFont _
  | cancelScript => exact fontCurrent_updateFont _
  | wide on => exact current.setWide on
  | tall on => exact .ite current (fontCurrent_updateFont _)
  | ink ink => exact current
  | typeface typeface => exact fontCurrent_updateFont _
  | selectTable slot => exact fontCurrent_updateFont _
  | assignTable slot selector => exact fontCurrent_updateFont _
  | nationalSet selector => exact current
  | msb bit => exact current
  | printUpper on => exact current
  | reassign key density => exact current
  | _ => exact current

theorem FontCurrent.endLine (current : FontCurrent r) : FontCurrent r.endLine :=
  .ite (fontCurrent_updateFont _) current

theorem FontCurrent.control (current : FontCurrent r) (autofeed : Bool) (code : Control) :
    FontCurrent (r.control autofeed code) := by
  cases code with
  | verticalTab => exact current.endLine
  | formFeed => exact current.endLine
  | lineFeed => exact current.endLine
  | carriageReturn => exact .ite current.endLine current
  | shiftOut => exact current.obey .wideLine
  | shiftIn => exact current.obey .condensed
  | cancelCondensed => exact fontCurrent_updateFont _
  | cancelWideLine => exact fontCurrent_updateFont _
  | _ => exact current

theorem FontCurrent.setTabs (current : FontCurrent r) (axis : TabAxis) (stops : List UInt8) :
    FontCurrent (r.setTabs axis stops) := by
  cases axis with
  | horizontal => exact current
  | vertical => exact current

end Registers

namespace Printer

theorem Reachable.fontCurrent {p : Printer} (reachable : Reachable p) :
    p.registers.FontCurrent := by
  refine reachable.registers Registers.fontCurrent_powerOn ?_ ?_ ?_
  · intro r instruction current
    exact current.obey instruction
  · intro r autofeed code current
    exact current.control autofeed code
  · intro r axis stops current
    exact current.setTabs axis stops

/-- In a reachable printer the font is the one that any registers with the same typeface, pitch,
style, point size and active code page ask for, and bringing it up to date changes nothing. -/
theorem font_of_reachable {p : Printer} (reachable : Reachable p) :
    p.registers.updateFont = p.registers ∧
      ∀ r : Registers, r.SameFontSources p.registers → r.wantedFont = p.registers.font := by
  have current := reachable.fontCurrent
  refine ⟨current.updateFont, ?_⟩
  intro r same
  rw [same.wantedFont, current]

/-- A printer that was reset within a sequence, and at which a line in double width has ended. -/
theorem font_of_reachable_letter :
    let host : Host := { launch := fun _ _ => .error "no programs", date := "2024-02-29 12:30:00" }
    let events : List Event := [.byte 0 0x1B, .byte 1 0x4D, .byte 2 0x0E, .byte 3 0x1B, .reset,
      .byte 4 0x0E, .poll 5, .formFeed, .autofeed true, .byte 6 0x0D]
    let p := (powerOn .letter host {}).run events
    p.Reachable ∧ p.registers.updateFont = p.registers ∧
      ∀ r : Registers, r.SameFontSources p.registers → r.wantedFont = p.registers.font := by
  intro host events p
  have reachable : p.Reachable := (Reachable.new (new_letter host {})).run events
  exact ⟨reachable, font_of_reachable reachable⟩

end Printer

end PinPrinter
