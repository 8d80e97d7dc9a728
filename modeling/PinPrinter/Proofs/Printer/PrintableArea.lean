import PinPrinter.Proofs.Printer.Events
import PinPrinter.Proofs.Registers.Frame

/-! # The printable area

A sheet has a printable area if its top margin lies above its bottom margin. It has one at power-on,
and the instructions that reset the top margin, or refuse margins that are out of order, keep it.
Three instructions can take it away, since they compare what they set with the length of the page
but not with the margin that stays: a bottom margin, a page length in lines, and a page format whose
bottom margin is off the page. These are the overruns, and a run keeps the printable area if and
only if none of its events is one.
-/

namespace PinPrinter

open Binary64

namespace Registers

/-- The top margin lies above the bottom margin. -/
def Printable (r : Registers) : Prop :=
  r.topMargin < r.bottomMargin

instance (r : Registers) : Decidable r.Printable :=
  inferInstanceAs (Decidable (_ < _))

/-- An instruction is accepted although it puts the bottom margin at or above the top margin. -/
def Overruns (r : Registers) : Instruction → Prop
  | .pageLines lines =>
    let height := Float.ofNat lines * r.lineSpacing
    0.0 < height ∧ height ≤ r.topMargin
  | .bottomMargin lines =>
    let margin := Float.ofNat lines * r.lineSpacing
    0 < lines ∧ margin < r.pageHeight ∧ r.pageHeight - margin ≤ r.topMargin
  | .pageFormat top bottom =>
    ∃ unit ∈ r.unit,
      let top := Float.ofNat top * unit
      let bottom := Float.ofNat bottom * unit
      top < bottom ∧ top < r.pageHeight ∧ r.pageHeight ≤ bottom ∧ r.bottomMargin ≤ top
  | _ => False

variable {r : Registers}

/-- The printable area is a matter of the frame. -/
theorem printable_congr {s : Registers} (same : s.frame = r.frame) : s.Printable ↔ r.Printable := by
  change s.frame.topMargin < s.frame.bottomMargin ↔ r.frame.topMargin < r.frame.bottomMargin
  rw [same]

theorem printable_ite {c : Prop} [Decidable c] {yes no : Registers} (accepted : c → yes.Printable)
    (refused : no.Printable) : (if c then yes else no).Printable := by
  by_cases chosen : c
  · rw [if_pos chosen]
    exact accepted chosen
  · rwa [if_neg chosen]

theorem printable_powerOn {width height : Float} (high : Within 0.1 65536.0 height) :
    (powerOn width height).Printable :=
  lt_of_lt_of_le (by decide : (0.0 : Float) < 0.1) high.least

/-- A margin or page length that is set where a condition holds keeps the printable area unless it
overruns. -/
theorem printable_ite_iff {c : Prop} [Decidable c] {yes : Registers} {overruns : Prop}
    (printable : r.Printable) (accepted : c → (yes.Printable ↔ ¬ overruns))
    (only : overruns → c) : (if c then yes else r).Printable ↔ ¬ overruns := by
  by_cases chosen : c
  · rw [if_pos chosen]
    exact accepted chosen
  · rw [if_neg chosen]
    exact iff_of_true printable fun overrun => chosen (only overrun)

variable (sound : r.Sound) (printable : r.Printable)

include sound printable

theorem printable_pageLines {lines : Nat} (small : lines < 65536) :
    (r.setPageHeight (Float.ofNat lines * r.lineSpacing)).Printable ↔
      ¬ r.Overruns (.pageLines lines) := by
  have height := sound.steps.lineSpacing.mul small
  have apart : ¬ Float.ofNat lines * r.lineSpacing ≤ r.topMargin ↔
      r.topMargin < Float.ofNat lines * r.lineSpacing :=
    not_le_iff height.number sound.frame.top.number
  apply printable_ite_iff printable
  · intro positive
    exact apart.symm.trans (not_congr (and_iff_right positive).symm)
  · exact And.left

theorem printable_setBottomMargin {lines : Nat} (small : lines < 65536) :
    (r.setBottomMargin lines).Printable ↔ ¬ r.Overruns (.bottomMargin lines) := by
  have margin := sound.steps.lineSpacing.mul small
  have page := sound.frame.pageHeight
  have bottom := (le_iff.mp (sub_le_self page.finite margin.finite margin.least)).1
  have apart : ¬ r.pageHeight - Float.ofNat lines * r.lineSpacing ≤ r.topMargin ↔
      r.topMargin < r.pageHeight - Float.ofNat lines * r.lineSpacing :=
    not_le_iff bottom sound.frame.top.number
  apply printable_ite_iff printable
  · rintro ⟨some_, inside⟩
    exact apart.symm.trans (not_congr ((and_iff_right some_).trans (and_iff_right inside)).symm)
  · rintro ⟨some_, inside, -⟩
    exact ⟨some_, inside⟩

/-- Of two margins in order, each is taken if it lies on the page. -/
theorem printable_margins {top bottom : Float} (number : IsNumber top) (number' : IsNumber bottom) :
    (if top ≥ bottom then r
      else
        let topped := if top < r.pageHeight then { r with topMargin := top } else r
        if bottom < topped.pageHeight then { topped with bottomMargin := bottom }
        else topped).Printable ↔
      ¬ (top < bottom ∧ top < r.pageHeight ∧ r.pageHeight ≤ bottom ∧ r.bottomMargin ≤ top) := by
  have page : IsNumber r.pageHeight := sound.frame.pageHeight.number
  by_cases disorder : top ≥ bottom
  · rw [if_pos disorder]
    exact iff_of_true printable fun overrun =>
      (not_le_iff number' number).mpr overrun.1 disorder
  · have ordered : top < bottom := (not_le_iff number' number).mp disorder
    rw [if_neg disorder]
    by_cases inside : top < r.pageHeight
    · rw [if_pos inside]
      by_cases inside' : bottom < r.pageHeight
      · dsimp only
        rw [if_pos inside']
        exact iff_of_true ordered fun overrun =>
          (not_le_iff page number').mpr inside' overrun.2.2.1
      · have off : r.pageHeight ≤ bottom := le_of_not_lt number' page inside'
        have apart : ¬ r.bottomMargin ≤ top ↔ top < r.bottomMargin :=
          not_le_iff (le_iff.mp sound.frame.bottom_le).1 number
        dsimp only
        rw [if_neg inside', and_iff_right ordered, and_iff_right inside, and_iff_right off]
        exact apart.symm
    · have outside : ¬ bottom < r.pageHeight := fun inside' =>
        inside (lt_of_lt_of_le ordered (le_of_lt inside'))
      rw [if_neg inside]
      dsimp only
      rw [if_neg outside]
      exact iff_of_true printable fun overrun => inside overrun.2.1

theorem printable_setPageFormat {top bottom : Nat} (small : top < 65536 ∧ bottom < 65536) :
    (r.setPageFormat top bottom).Printable ↔ ¬ r.Overruns (.pageFormat top bottom) := by
  cases defined : r.unit with
  | none =>
    simp only [setPageFormat, defined]
    refine iff_of_true printable ?_
    rintro ⟨unit, member, -⟩
    rw [defined] at member
    cases member
  | some unit =>
    have step := sound.steps.unit unit defined
    rw [setPageFormat_of_unit defined,
      printable_margins sound printable (step.mul small.1).number (step.mul small.2).number]
    apply not_congr
    constructor
    · intro overrun
      exact ⟨unit, defined, overrun⟩
    · rintro ⟨other, member, overrun⟩
      obtain rfl := Option.some.inj (defined.symm.trans member)
      exact overrun

/-- A command keeps the printable area unless it overruns. -/
theorem printable_obey {instruction : Instruction} (inRange : instruction.InRange) :
    (r.obey instruction).Printable ↔ ¬ r.Overruns instruction := by
  have positive : 0.0 < r.bottomMargin := lt_of_le_of_lt sound.frame.top.least printable
  cases instruction with
  | pageLines lines => exact printable_pageLines sound printable inRange
  | bottomMargin lines => exact printable_setBottomMargin sound printable inRange
  | pageFormat top bottom => exact printable_setPageFormat sound printable inRange
  | restart => exact iff_of_true (printable_powerOn sound.frame.paperHeight) not_false
  | pageInches inches => exact iff_of_true (printable_ite id positive) not_false
  | pageUnits count =>
    simp only [obey]
    cases defined : r.unit with
    | none => exact iff_of_true printable not_false
    | some unit =>
      have long (height : Float) (above : height > 0.0) :
          { r.setPageHeight height with topMargin := 0.0 }.Printable := by
        unfold setPageHeight
        rw [if_pos above]
        exact above
      exact iff_of_true (printable_ite (long _) printable) not_false
  | cancelMargins => exact iff_of_true sound.frame.pageHeight_pos not_false
  | rightMargin column => exact iff_of_true (printable_ite (fun _ => printable) printable) not_false
  | leftMargin column => exact iff_of_true (printable_ite (fun _ => printable) printable) not_false
  | _ => exact iff_of_true ((printable_congr (frame_obey rfl)).mpr printable) not_false

end Registers

namespace Printer

/-- An event ends a command that overruns. -/
def Overruns (p : Printer) : Event → Prop
  | .byte _ byte =>
    match (p.interpreter.receive p.autofeed byte).2 with
    | some (.command c params) => p.registers.Overruns (.ofCommand c params)
    | _ => False
  | _ => False

variable {config : Config} {host : Host} {folder : Folder} {p : Printer}

/-- A byte keeps the printable area unless it ends a command that overruns. -/
theorem printable_receive (sound : p.registers.Sound) (printable : p.registers.Printable)
    (now : Nat) (byte : UInt8) :
    (p.interpreter.receive p.autofeed byte).1.registers.Printable ↔
      ¬ p.Overruns (.byte now byte) := by
  dsimp only [Overruns]
  rcases fed : p.interpreter.reader.feed (p.interpreter.registers.forceMsb byte) with
    ⟨reader, _ | action⟩
  · rw [Interpreter.receive_silent fed]
    exact iff_of_true printable not_false
  · rw [Interpreter.receive_action fed]
    cases action with
    | command c params =>
      change (Interpreter.obey _ (.ofCommand c params)).registers.Printable ↔ _
      rw [Interpreter.registers_obey]
      exact Registers.printable_obey sound printable (Instruction.inRange_ofCommand c params)
    | control code =>
      have same := Registers.frame_control p.registers p.autofeed code
      exact iff_of_true ((Registers.printable_congr same).mpr printable) not_false
    | tabs axis stops =>
      have same := Registers.frame_setTabs p.registers axis stops.toList
      exact iff_of_true ((Registers.printable_congr same).mpr printable) not_false
    | print byte => exact iff_of_true printable not_false
    | payload c data => exact iff_of_true printable not_false
    | column bytes => exact iff_of_true printable not_false

theorem printable_step (sound : p.registers.Sound) (printable : p.registers.Printable)
    (event : Event) : (p.step event).registers.Printable ↔ ¬ p.Overruns event := by
  unfold registers
  rw [interpreter_step]
  have restarted : p.interpreter.restart.registers.Printable :=
    Registers.printable_powerOn sound.frame.paperHeight
  cases event with
  | byte now byte => exact printable_receive sound printable now byte
  | reset => exact iff_of_true restarted not_false
  | resetHard => exact iff_of_true restarted not_false
  | formFeed => exact iff_of_true printable not_false
  | poll now => exact iff_of_true printable not_false
  | finish => exact iff_of_true printable not_false
  | autofeed on => exact iff_of_true printable not_false
  | acknowledge => exact iff_of_true printable not_false

/-- A run keeps the printable area at every point if and only if none of its events overruns. -/
theorem printable_prefixes_iff (sound : p.registers.Sound) (printable : p.registers.Printable)
    (events : List Event) :
    (∀ earlier, earlier <+: events → (p.run earlier).registers.Printable) ↔
      ∀ earlier event, earlier ++ [event] <+: events → ¬ (p.run earlier).Overruns event := by
  constructor
  · intro always earlier event upTo
    have before := always earlier ((List.prefix_append earlier [event]).trans upTo)
    have after := always (earlier ++ [event]) upTo
    rw [run_append] at after
    exact (printable_step (sound_run sound earlier) before event).mp after
  · intro never earlier
    -- The induction is on the last event, since an overrun is one after a run without any.
    induction earlier using List.reverseRecOn with
    | nil =>
      intro _
      exact printable
    | append_singleton earlier event ih =>
      intro upTo
      have before := ih ((List.prefix_append earlier [event]).trans upTo)
      rw [run_append]
      exact (printable_step (sound_run sound earlier) before event).mpr (never earlier event upTo)

/-- Whatever is done with a printer, the bottom margin stays on the page, and a new sheet starts at
the top margin. That the top margin lies above the bottom margin holds at every point of a run if
and only if no event of the run overruns. -/
theorem printable_run_iff (started : Printer.new config host folder = .ok p)
    (events : List Event) :
    ((∀ earlier, earlier <+: events → (p.run earlier).registers.Printable) ↔
      ∀ earlier event, earlier ++ [event] <+: events → ¬ (p.run earlier).Overruns event) ∧
      (p.run events).registers.bottomMargin ≤ (p.run events).registers.pageHeight ∧
      ∀ x, ((p.run events).paper.turn (p.run events).registers x).pen.y =
        (p.run events).registers.topMargin := by
  have sound := sound_of_new started
  have printable : p.registers.Printable := by
    obtain ⟨-, -, height⟩ := Config.of_fault? (accepted_of_new started)
    obtain rfl := eq_powerOn_of_new started
    exact Registers.printable_powerOn (Config.within_tenths height)
  have bottom := (sound_run sound events).frame.bottom_le
  exact ⟨printable_prefixes_iff sound printable events, bottom, fun x => rfl⟩

/-- The top margin is set to ten inches, in units of 1/360 inch, and then the length of the page to
three lines. The printable area is lost, so some event of the run overruns. -/
theorem printable_run_iff_letter :
    let host : Host := { launch := fun _ _ => .error "no programs", date := "2024-02-29 12:30:00" }
    let unit : List UInt8 := [0x1B, 0x28, 0x55, 0x01, 0x00, 0x0A]
    let format : List UInt8 := [0x1B, 0x28, 0x63, 0x04, 0x00, 0x10, 0x0E, 0x74, 0x0E]
    let length : List UInt8 := [0x1B, 0x43, 0x03]
    let p := powerOn .letter host {}
    let events := (unit ++ format ++ length).map (Event.byte 0)
    Printer.new .letter host {} = .ok p ∧ ¬ (p.run events).registers.Printable ∧
      (p.run events).registers.bottomMargin ≤ (p.run events).registers.pageHeight ∧
        ∃ earlier event, earlier ++ [event] <+: events ∧ (p.run earlier).Overruns event := by
  intro host unit format length p events
  obtain ⟨always_iff, bottom, -⟩ := printable_run_iff (new_letter host {}) events
  have lost : ¬ (p.run events).registers.Printable := by decide +kernel
  refine ⟨new_letter host {}, lost, bottom, ?_⟩
  by_contra never
  push Not at never
  exact lost (always_iff.mpr never events (List.prefix_refl events))

/-- With a top margin of ten inches, a bottom margin of five inches leaves no printable area on
letter paper: a new sheet starts below its bottom margin. -/
theorem not_printable_letter :
    let host : Host := { launch := fun _ _ => .error "no programs", date := "2024-02-29 12:30:00" }
    let unit : List UInt8 := [0x1B, 0x28, 0x55, 0x01, 0x00, 0x0A]
    let format : List UInt8 := [0x1B, 0x28, 0x63, 0x04, 0x00, 0x10, 0x0E, 0x74, 0x0E]
    let bottom : List UInt8 := [0x1B, 0x4E, 0x1E]
    let p := (powerOn .letter host {}).run ((unit ++ format ++ bottom).map (Event.byte 0))
    p.Reachable ∧ ¬ p.registers.topMargin < p.registers.bottomMargin ∧
      ¬ p.formFeed.paper.pen.y < p.registers.bottomMargin := by
  intro host unit format bottom p
  have reachable : p.Reachable := (Reachable.new (new_letter host {})).run _
  exact ⟨reachable, by decide +kernel, by decide +kernel⟩

end Printer

end PinPrinter
