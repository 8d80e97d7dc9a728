import PinPrinter.Proofs.Printer.Emission
import PinPrinter.Proofs.Printer.LineEnds
import PinPrinter.Proofs.Registers.Motion

/-! # Vertical tabs

Where no stops have been set, a vertical tab is a line feed in all that it does. Where there are
stops, it goes straight down to the first listed one below the pen, and the sheet is left only if
there is none, or if that one lies below the bottom margin. Stops keep the places that they were set
at, whatever becomes of the margins, and the list is searched in its order.
-/

namespace PinPrinter

open Binary64

/-- The first of some stops that is below a height, as they are listed. -/
def FirstBelow (y : Float) (positions : List Float) (stop : Float) : Prop :=
  ∃ passed later, positions = passed ++ stop :: later ∧ (∀ other ∈ passed, ¬ y < other) ∧ y < stop

namespace Paper

/-- The second paper is the first one with a new sheet, the pen in a place of it. The sheet before
it was sent off if anything was on it, and else nothing was. -/
structure Turned (p : Paper) (pen : Pen) (q : Paper) : Prop where
  sheet : q.sheet = p.sheet.clear
  pen : q.pen = pen
  glyphs : q.glyphs = p.glyphs
  kept : p.sheet.isBlank = true → q.outbox = p.outbox ∧ q.artifacts = p.artifacts
  sent : p.sheet.isBlank = false →
    q.outbox = (p.outbox.deliver p.sheet).1 ∧
      q.artifacts.toList = p.artifacts.toList ++ (p.outbox.deliver p.sheet).2.toOption.toList

/-- What a vertical tab makes of a paper where there are stops. -/
inductive Tabbed (p : Paper) (r : Registers) (positions : List Float) : Paper → Prop
  | move {stop : Float} (first : FirstBelow p.pen.y positions stop)
      (inside : stop ≤ r.bottomMargin) :
      Tabbed p r positions { p with pen := ⟨p.pen.x, stop⟩ }
  | turn {q : Paper}
      (off : (∀ stop ∈ positions, ¬ p.pen.y < stop) ∨
        ∃ stop, FirstBelow p.pen.y positions stop ∧ r.bottomMargin < stop)
      (turned : p.Turned ⟨p.pen.x, r.topMargin⟩ q) : Tabbed p r positions q

theorem turned_turn (p : Paper) (r : Registers) (x : Float) :
    p.Turned ⟨x, r.topMargin⟩ (p.turn r x) where
  sheet := sheet_turn p r x
  pen := rfl
  glyphs := glyphs_turn p r x
  kept blank := by
    rw [turn, emit_eq_handOver, if_pos blank]
    exact ⟨rfl, rfl⟩
  sent marked := by
    have artifact (result : Except Error Artifact) :
        (Deed.handOver p.sheet result).artifact? = result.toOption := by
      cases result <;> rfl
    rw [turn, emit_eq_handOver, marked, if_neg Bool.false_ne_true, ← artifact]
    exact ⟨outbox_handOver p, artifacts_handOver p⟩

end Paper

/-! ## Where a vertical tab goes -/

namespace Registers

variable {r : Registers} {positions : List Float} {y stop : Float}

theorem nextVerticalTab?_eq_some_iff (set : r.verticalTabs = .stops positions) :
    r.nextVerticalTab? y = some stop ↔ FirstBelow y positions stop := by
  simp only [nextVerticalTab?, set, List.find?_eq_some_iff_append, FirstBelow,
    Bool.not_eq_eq_eq_not, Bool.not_true, decide_eq_true_eq, decide_eq_false_iff_not]
  constructor
  · rintro ⟨below, passed, later, split, above⟩
    exact ⟨passed, later, split, above, below⟩
  · rintro ⟨passed, later, split, above, below⟩
    exact ⟨below, passed, later, split, above⟩

theorem nextVerticalTab?_eq_none_iff (set : r.verticalTabs = .stops positions) :
    r.nextVerticalTab? y = none ↔ ∀ stop ∈ positions, ¬ y < stop := by
  simp only [nextVerticalTab?, set, List.find?_eq_none, decide_eq_true_eq]

/-- With stops the pen goes to the next one, as long as that is on the page. -/
theorem verticalTab_of_stops (set : r.verticalTabs = .stops positions) (stops : positions ≠ [])
    (pen : Pen) :
    r.verticalTab pen =
      match r.nextVerticalTab? pen.y with
      | some stop => if stop ≤ r.bottomMargin then .to ⟨pen.x, stop⟩ else .turn pen.x
      | none => .turn pen.x := by
  rw [verticalTab, set]
  cases positions with
  | nil => exact absurd rfl stops
  | cons first rest => rfl

end Registers

namespace Paper

variable {r : Registers} {positions : List Float}

/-- A bottom margin that is a number is above a stop or not above it. -/
theorem tabbed_verticalTab (number : IsNumber r.bottomMargin)
    (set : r.verticalTabs = .stops positions) (stops : positions ≠ []) (p : Paper) :
    p.Tabbed r positions (p.follow r (r.verticalTab p.pen)) := by
  rw [Registers.verticalTab_of_stops set stops]
  cases found : r.nextVerticalTab? p.pen.y with
  | none =>
    have passed := (Registers.nextVerticalTab?_eq_none_iff set).mp found
    exact .turn (.inl passed) (turned_turn p r p.pen.x)
  | some stop =>
    have first := (Registers.nextVerticalTab?_eq_some_iff set).mp found
    dsimp only
    by_cases inside : stop ≤ r.bottomMargin
    · rw [if_pos inside]
      exact .move first inside
    · have below : p.pen.y < stop := Registers.lt_of_nextVerticalTab? found
      have beyond : r.bottomMargin < stop :=
        lt_of_not_le (le_iff.mp (le_of_lt below)).2.1 number inside
      rw [if_neg inside]
      exact .turn (.inr ⟨stop, first, beyond⟩) (turned_turn p r p.pen.x)

end Paper

namespace Printer

variable {p : Printer} {tab : UInt8}

/-- A control code is executed, and behind it the timer is armed. -/
theorem step_of_reads_control {byte : UInt8} {code : Control} (read : p.Reads byte code)
    (now : Nat) :
    let q := { p with unacknowledged := true }.control code
    p.step (.byte now byte) = { q with timer := q.timer.arm now } := by
  have fed := Interpreter.receive_control_iff.mp read
  obtain ⟨config, ⟨reader, registers, image⟩, paper, timer, autofeed, unacknowledged⟩ := p
  dsimp only at fed
  unfold step receive
  dsimp only
  rw [fed]
  rfl

/-- Whether a line ends before it is left or behind that makes no difference: where the pen goes,
and where a new sheet starts, is not a matter of style. -/
theorem endLine_lineFeed (p : Printer) : p.lineFeed.endLine = p.endLine.lineFeed := by
  have unstyled : Registers.Unstyled fun r => r.newLine p.pen := fun _ _ _ _ => rfl
  rw [lineFeed_eq, lineFeed_eq, endLine_go, ← unstyled.endLine p.registers]
  rfl

/-- A vertical tab feeds a line and then ends it, a line feed ends a line and then feeds it. -/
theorem control_verticalTab_of_unset (unset : p.registers.verticalTabs = .unset) :
    p.control .verticalTab = p.control .lineFeed := by
  have fed : p.verticalTab = p.lineFeed := by
    rw [verticalTab, unset]
  change p.verticalTab.endLine = p.endLine.lineFeed
  rw [fed, endLine_lineFeed]

/-- The paper follows a vertical tab as the margins and stops say that stand before it. -/
theorem paper_of_reads_verticalTab (read : p.Reads tab .verticalTab) (now : Nat) :
    (p.step (.byte now tab)).paper =
      p.paper.follow p.registers (p.registers.verticalTab p.paper.pen) := by
  rw [step_of_reads_control read]
  change ({ p with unacknowledged := true }.verticalTab).paper = _
  rw [verticalTab_eq]
  exact paper_go ..

/-- Where one control code is read, every other one is. -/
theorem Reads.other {byte : UInt8} {code : Control} (read : p.Reads byte code) (other : Control) :
    p.Reads other.byte other := by
  have fed := Interpreter.receive_control_iff.mp read
  exact Interpreter.receive_control_iff.mpr (p.registers.feed_forceMsb fed other)

/-- Where no stops have been set, a vertical tab leaves the printer that a line feed leaves. Where
there are some, it moves the pen down to the first one below it, or to the top of a new sheet. -/
theorem verticalTab_of_reachable (reachable : p.Reachable) (read : p.Reads tab .verticalTab)
    (now : Nat) :
    let q := p.step (.byte now tab)
    (p.registers.verticalTabs = .unset → p.Reads Control.lineFeed.byte .lineFeed ∧
        ∀ feed, p.Reads feed .lineFeed → q = p.step (.byte now feed)) ∧
      ∀ positions, p.registers.verticalTabs = .stops positions → positions ≠ [] →
        p.paper.Tabbed p.registers positions q.paper := by
  intro q
  constructor
  · intro unset
    refine ⟨read.other .lineFeed, ?_⟩
    intro feed fed
    have unset' : { p with unacknowledged := true }.registers.verticalTabs = .unset := unset
    change p.step (.byte now tab) = _
    rw [step_of_reads_control read, step_of_reads_control fed, control_verticalTab_of_unset unset']
  · intro positions set stops
    have number : IsNumber p.registers.bottomMargin :=
      (le_iff.mp reachable.sound.frame.bottom_le).1
    change p.paper.Tabbed p.registers positions (p.step (.byte now tab)).paper
    rw [paper_of_reads_verticalTab read]
    exact Paper.tabbed_verticalTab number set stops p.paper

/-- Before stops are set, in double width for the line; and with stops at three lines and at sixty,
the second of which lies below the bottom margin. -/
theorem verticalTab_of_reachable_letter :
    let host : Host := { launch := fun _ _ => .error "no programs", date := "2024-02-29 12:30:00" }
    let p := (powerOn .letter host {}).run ([0x0E, 0x41].map (Event.byte 0))
    let stops : List UInt8 := [0x1B, 0x42, 0x03, 0x3C, 0x00]
    let margin : List UInt8 := [0x1B, 0x4E, 0x0A]
    let q := p.run ((stops ++ margin ++ [0x0B]).map (Event.byte 1))
    (p.Reachable ∧ p.Reads 0x0B .verticalTab ∧ p.Reads 0x0A .lineFeed) ∧
      p.step (.byte 1 0x0B) = p.step (.byte 1 0x0A) ∧
      ∃ positions, q.registers.verticalTabs = .stops positions ∧
        q.paper.Tabbed q.registers positions (q.step (.byte 2 0x0B)).paper ∧
        (q.step (.byte 2 0x0B)).paper.pen.y = q.registers.topMargin := by
  intro host p stops margin q
  have reachable : p.Reachable := (Reachable.new (new_letter host {})).run _
  have read : p.Reads 0x0B .verticalTab := by decide +kernel
  have fed : p.Reads 0x0A .lineFeed := by decide +kernel
  have unset : p.registers.verticalTabs = .unset := by
    rw [registers, (understand_run ..).1]
    rfl
  have again : q.Reads 0x0B .verticalTab := by decide +kernel
  obtain ⟨positions, set, stopped⟩ : ∃ positions, q.registers.verticalTabs = .stops positions ∧
      positions ≠ [] := by
    have listed : (match q.registers.verticalTabs with
        | .unset => []
        | .stops positions => positions) = [0.5, 10.0] := by decide +kernel
    cases set : q.registers.verticalTabs with
    | unset =>
      rw [set] at listed
      cases listed
    | stops positions =>
      rw [set] at listed
      exact ⟨positions, rfl, fun none => by cases none.symm.trans listed⟩
  refine ⟨⟨reachable, read, fed⟩, ?_, positions, set, ?_, ?_⟩
  · exact ((verticalTab_of_reachable reachable read 1).1 unset).2 0x0A fed
  · exact (verticalTab_of_reachable (reachable.run _) again 2).2 positions set stopped
  · decide +kernel

end Printer

end PinPrinter
