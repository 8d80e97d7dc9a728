import PinPrinter.Proofs.Printer.Events
import PinPrinter.Proofs.Stream.Token
import PinPrinter.Proofs.Stream.Turn

/-! # Autofeed

With the autofeed line on, the printer follows every carriage return by a line feed. That is exactly
what a host gets that leaves the line alone and sends a line feed of its own behind every byte that
is read as a carriage return, in whatever form the byte comes. Where a carriage return is
understood, so is the line feed behind it, since both are forced to the same highest bit.
-/

namespace PinPrinter

/-! ## Reading control codes -/

namespace Reader

variable {r next : Reader} {byte : UInt8} {code : Control}

theorem start_ne_control (c : Command) (code : Control) :
    (start c).2 ≠ some (.control code) := by
  unfold start
  split <;> nofun

theorem complete_ne_control (r : Reader) (c : Command) (params : Array UInt8) (code : Control) :
    (r.complete c params).2 ≠ some (.control code) := by
  unfold complete
  dsimp only
  repeat' split
  all_goals nofun

/-- Inside a sequence no byte is a control code. -/
theorem feed_ne_control (busy : r.phase ≠ .idle) (byte : UInt8) (code : Control) :
    (r.feed byte).2 ≠ some (.control code) := by
  unfold feed
  cases stands : r.phase with
  | idle => exact absurd stands busy
  | escape =>
    dsimp only
    split
    · nofun
    · exact start_ne_control _ code
  | fileSeparator => exact start_ne_control _ code
  | extended =>
    dsimp only [startExtended]
    split
    · exact start_ne_control _ code
    · nofun
  | params c needed collected =>
    dsimp only
    split
    · nofun
    · exact complete_ne_control r c _ code
  | tabs axis stops last =>
    dsimp only [takeTab]
    split <;> nofun
  | channel => nofun
  | image remaining columnBytes column =>
    dsimp only [takeImage]
    split <;> nofun
  | payload c remaining data =>
    dsimp only
    split <;> nofun
  | skip c remaining =>
    dsimp only
    split <;> nofun
  | defineRange range => nofun
  | definePattern range characters header => nofun
  | skipPattern range characters header remaining =>
    dsimp only
    split <;> nofun

theorem takeIdle_eq_control (read : r.takeIdle byte = (next, some (.control code))) :
    next = r ∧ r.literal = 0 := by
  unfold takeIdle at read
  by_cases pending : 0 < r.literal
  · rw [if_pos pending] at read
    cases read
  · rw [if_neg pending] at read
    refine ⟨?_, Nat.eq_zero_of_not_pos pending⟩
    dsimp only at read
    generalize (r.upperControl && (decide (0x80 ≤ byte) && decide (byte ≤ 0x9F))) = upper at read
    generalize (if upper = true then byte &&& 0x7F else byte) = low at read
    split at read
    · cases read
    · split at read
      · cases read
      · cases found : Control.ofByte? low with
        | some control =>
          rw [found] at read
          exact (Prod.mk.inj read).1.symm
        | none =>
          rw [found] at read
          exact (Prod.mk.inj read).1.symm

/-- A control code is read between sequences and leaves the reader there. From 80h on it is a byte
that repeats a control code. -/
theorem feed_eq_control (read : r.feed byte = (next, some (.control code))) :
    next = r ∧ r.phase = .idle ∧ r.literal = 0 ∧ (0x80 ≤ byte → r.upperControl = true) := by
  have idle : r.phase = .idle := Decidable.byContradiction fun busy =>
    feed_ne_control busy byte code (congrArg Prod.snd read)
  have taken : r.takeIdle byte = (next, some (.control code)) := by
    rwa [feed, idle] at read
  obtain ⟨same, literal⟩ := takeIdle_eq_control taken
  refine ⟨same, idle, literal, ?_⟩
  intro least
  cases on : r.upperControl with
  | true => rfl
  | false =>
    rw [feed_character_of_upper idle literal on least] at read
    cases read

/-- Where the bytes from 80h to 9Fh repeat the control codes, a code is understood with its highest
bit set. -/
theorem feed_upper_control (on : r.upperControl = true) (idle : r.phase = .idle)
    (literal : r.literal = 0) (code : Control) :
    r.feed (code.byte ||| 0x80) = (r, some (.control code)) := by
  obtain ⟨phase, pending, upper⟩ := r
  obtain rfl : phase = .idle := idle
  obtain rfl : pending = 0 := literal
  obtain rfl : upper = true := on
  cases code <;> decide

end Reader

/-- Where one control code is understood, every other one is, forced to the same highest bit. -/
theorem Registers.feed_forceMsb {registers : Registers} {r next : Reader} {byte : UInt8}
    {code : Control} (read : r.feed (registers.forceMsb byte) = (next, some (.control code)))
    (other : Control) :
    r.feed (registers.forceMsb other.byte) = (r, some (.control other)) := by
  obtain ⟨-, idle, literal, upper⟩ := Reader.feed_eq_control read
  have low : r.feed other.byte = (r, some (.control other)) := by
    obtain ⟨phase, pending, on⟩ := r
    obtain rfl : phase = .idle := idle
    obtain rfl : pending = 0 := literal
    exact Reader.feed_control on other
  unfold forceMsb at upper ⊢
  cases msb : registers.msb with
  | none => exact low
  | some bit =>
    cases bit with
    | false =>
      have same : other.byte &&& 0x7F = other.byte := by cases other <;> decide
      dsimp only
      rw [same]
      exact low
    | true =>
      rw [msb] at upper
      have least : 0x80 ≤ byte ||| 0x80 := by
        rw [UInt8.le_iff_toNat_le, UInt8.toNat_or]
        exact Nat.right_le_or
      exact Reader.feed_upper_control (upper least) idle literal other

/-! ## What autofeed has no part in -/

variable {action : Action}

/-- The autofeed line decides about carriage returns only. -/
theorem Interpreter.act_congr_autofeed (other : action ≠ .control .carriageReturn)
    (i : Interpreter) (on off : Bool) : i.act on action = i.act off action := by
  cases action with
  | control code => cases code <;> first | rfl | exact absurd rfl other
  | _ => rfl

theorem Paper.act_congr_autofeed (other : action ≠ .control .carriageReturn) (p : Paper)
    (r : Registers) (density : Option BitImage.Density) (on off : Bool) :
    p.act r density on action = p.act r density off action := by
  cases action with
  | control code => cases code <;> first | rfl | exact absurd rfl other
  | _ => rfl

/-! ## Return and feed -/

/-- A new line starts at the left margin, wherever in the line before it the pen stands. -/
theorem Registers.newLine_congr (r : Registers) {first second : Pen} (same : first.y = second.y) :
    r.newLine first = r.newLine second := by
  unfold newLine
  rw [same]

namespace Paper

/-- Where the pen has been before does not show in where it goes. -/
theorem follow_setPen (p : Paper) (pen : Pen) (r : Registers) (motion : Motion) :
    { p with pen := pen }.follow r motion = p.follow r motion := by
  rcases motion with place | x
  · rfl
  · exact p.turn_of_pen pen r x

/-- A return that feeds a line is a return and then a line feed, as long as the line feed ends the
line in the same way. -/
theorem act_return_feed (p : Paper) (r ended : Registers) (density : Option BitImage.Density) :
    p.act ended density true (.control .carriageReturn) =
      (p.act r density false (.control .carriageReturn)).act ended density false
        (.control .lineFeed) := by
  change p.follow ended (ended.newLine p.pen) =
    { p with pen := ⟨r.leftMargin, p.pen.y⟩ }.follow ended (ended.newLine ⟨r.leftMargin, p.pen.y⟩)
  have place : ended.newLine ⟨r.leftMargin, p.pen.y⟩ = ended.newLine p.pen :=
    ended.newLine_congr rfl
  rw [place]
  exact (follow_setPen ..).symm

end Paper

/-- Two bytes at one time start the wait of the timer once. -/
theorem EjectTimer.arm_arm (t : EjectTimer) (now : Nat) : (t.arm now).arm now = t.arm now := by
  obtain ⟨timeout, deadline, idle⟩ := t
  cases timeout <;> rfl

/-! ## One run and the other -/

namespace Interpreter

/-- A byte is read as a carriage return. -/
def returns (i : Interpreter) (byte : UInt8) : Prop :=
  (i.receive true byte).2 = some (.control .carriageReturn)

instance (i : Interpreter) (byte : UInt8) : Decidable (i.returns byte) :=
  inferInstanceAs (Decidable (_ = _))

/-- The line feed that a host without autofeed sends behind a carriage return, at the same time. -/
def feedsAfter (i : Interpreter) (now : Nat) (byte : UInt8) : List (Nat × UInt8) :=
  if i.returns byte then [(now, Control.lineFeed.byte)] else []

/-- A job with a line feed behind every byte that is read as a carriage return. Each byte of a job
comes with the time at which it is sent. -/
def feedLines (i : Interpreter) : List (Nat × UInt8) → List (Nat × UInt8)
  | [] => []
  | (now, byte) :: rest =>
    (now, byte) :: (i.feedsAfter now byte ++ (i.receive true byte).1.feedLines rest)

variable {i next : Interpreter} {byte : UInt8}

/-- A byte is read as a control code between sequences, and the reader stays there. -/
theorem receive_control_iff {autofeed : Bool} {code : Control} :
    (i.receive autofeed byte).2 = some (.control code) ↔
      i.reader.feed (i.registers.forceMsb byte) = (i.reader, some (.control code)) := by
  rw [snd_receive]
  rcases fed : i.reader.feed (i.registers.forceMsb byte) with ⟨reader, action⟩
  rw [Prod.mk.injEq]
  constructor
  · rintro rfl
    exact ⟨(Reader.feed_eq_control fed).1, rfl⟩
  · exact And.right

/-- A byte that is no carriage return does the same whether autofeed is on or off. -/
theorem receive_of_not_returns (other : ¬ i.returns byte) :
    i.receive false byte = i.receive true byte := by
  rcases fed : i.reader.feed (i.registers.forceMsb byte) with ⟨reader, _ | action⟩
  · rw [receive_silent fed, receive_silent fed]
  · have received := receive_action fed true
    rw [returns, received] at other
    rw [received, receive_action fed]
    rw [act_congr_autofeed (fun same => other (congrArg some same)) _ false true]

/-- A carriage return with autofeed ends the line at once; without it, the line feed that comes next
does. -/
theorem receive_of_returns (return_ : i.returns byte) :
    let ended : Interpreter := { i with registers := i.registers.endLine }
    i.receive true byte = (ended, some (.control .carriageReturn)) ∧
      i.receive false byte = (i, some (.control .carriageReturn)) ∧
      i.receive false Control.lineFeed.byte = (ended, some (.control .lineFeed)) := by
  have fed := receive_control_iff.mp return_
  have fed' := i.registers.feed_forceMsb fed .lineFeed
  exact ⟨receive_action fed true, receive_action fed false, receive_action fed' false⟩

end Interpreter

namespace Printer

variable {p : Printer} {byte : UInt8}

/-- The events of a job: its bytes, each at its time. -/
def job (stamped : List (Nat × UInt8)) : List Event :=
  stamped.map fun s => .byte s.1 s.2

/-- Bytes do not touch the autofeed line. -/
theorem autofeed_run_job (p : Printer) (stamped : List (Nat × UInt8)) :
    (p.run (job stamped)).autofeed = p.autofeed := by
  induction stamped generalizing p with
  | nil => rfl
  | cons first rest ih => exact (ih _).trans (autofeed_step p _)

theorem step_autofeed_of_not_returns (other : ¬ p.interpreter.returns byte) (now : Nat) :
    (p.setAutofeed true).step (.byte now byte) =
      ((p.setAutofeed false).step (.byte now byte)).setAutofeed true := by
  have alike := Interpreter.receive_of_not_returns other
  rcases received : p.interpreter.receive true byte with ⟨next, _ | action⟩
  · have on : (p.setAutofeed true).interpreter.receive true byte = (next, none) := received
    have off : (p.setAutofeed false).interpreter.receive false byte = (next, none) :=
      alike.trans received
    rw [step_silent on, step_silent off]
    rfl
  · have on : (p.setAutofeed true).interpreter.receive true byte = (next, some action) := received
    have off : (p.setAutofeed false).interpreter.receive false byte = (next, some action) :=
      alike.trans received
    have notReturn : action ≠ .control .carriageReturn := by
      rintro rfl
      exact other (by rw [Interpreter.returns, received])
    rw [step_action on, step_action off, Paper.act_congr_autofeed notReturn _ _ _ _ false]
    rfl

theorem step_autofeed_of_returns (return_ : p.interpreter.returns byte) (now : Nat) :
    (p.setAutofeed true).step (.byte now byte) =
      (((p.setAutofeed false).step (.byte now byte)).step
        (.byte now Control.lineFeed.byte)).setAutofeed true := by
  obtain ⟨both, returned, fed⟩ := Interpreter.receive_of_returns return_
  have on : (p.setAutofeed true).interpreter.receive true byte = _ := both
  have off : (p.setAutofeed false).interpreter.receive false byte = _ := returned
  rw [step_action on, step_action off, step_action fed]
  have paper := p.paper.act_return_feed p.registers p.registers.endLine p.interpreter.image
  have timer := p.timer.arm_arm now
  exact (Printer.mk.injEq ..).mpr ⟨rfl, rfl, paper, timer.symm, rfl, rfl⟩

/-- One byte with autofeed is that byte without it, and the line feed that the host adds. -/
theorem step_autofeed (p : Printer) (now : Nat) (byte : UInt8) :
    (p.setAutofeed true).step (.byte now byte) =
      ((p.setAutofeed false).run
        (job ((now, byte) :: p.interpreter.feedsAfter now byte))).setAutofeed true := by
  unfold Interpreter.feedsAfter
  by_cases return_ : p.interpreter.returns byte
  · rw [if_pos return_]
    exact step_autofeed_of_returns return_ now
  · rw [if_neg return_]
    exact step_autofeed_of_not_returns return_ now

/-- Autofeed is a line feed behind every carriage return: printing a job with autofeed on leaves the
same printer as printing, with autofeed off, the job that has these line feeds among its bytes. Only
where the autofeed line stands tells the two printers apart. -/
theorem run_autofeed (p : Printer) (stamped : List (Nat × UInt8)) :
    (p.setAutofeed true).run (job stamped) =
      ((p.setAutofeed false).run (job (p.interpreter.feedLines stamped))).setAutofeed true := by
  induction stamped generalizing p with
  | nil => rfl
  | cons first rest ih =>
    obtain ⟨now, byte⟩ := first
    let fed := (now, byte) :: p.interpreter.feedsAfter now byte
    let next := (p.setAutofeed false).run (job fed)
    have both : (p.setAutofeed true).step (.byte now byte) = next.setAutofeed true :=
      step_autofeed p now byte
    have off : next.setAutofeed false = next := setAutofeed_of_autofeed (autofeed_run_job ..)
    -- The rest of the job is read by the same interpreter in both runs.
    have interpreter : (p.interpreter.receive true byte).1 = next.interpreter := by
      have after := interpreter_step (p.setAutofeed true) (.byte now byte)
      rw [both] at after
      exact after.symm
    have lines : p.interpreter.feedLines ((now, byte) :: rest) =
        fed ++ next.interpreter.feedLines rest := by
      rw [Interpreter.feedLines, interpreter]
      rfl
    have cut : job (fed ++ next.interpreter.feedLines rest) =
        job fed ++ job (next.interpreter.feedLines rest) := List.map_append
    calc ((p.setAutofeed true).step (.byte now byte)).run (job rest)
        = (next.setAutofeed true).run (job rest) := by rw [both]
      _ = (next.run (job (next.interpreter.feedLines rest))).setAutofeed true := by rw [ih, off]
      _ = _ := by rw [lines, cut, run_append]

/-- The return of a list of tab stops is a number, and the others come in two forms. -/
example :
    (Interpreter.powerOn 8.5 11.0).feedLines
        ([0x1B, 0x44, 0x0D, 0x00, 0x0D, 0x1B, 0x37, 0x8D, 0x1B, 0x3E, 0x0D].map ((0, ·))) =
      [0x1B, 0x44, 0x0D, 0x00, 0x0D, 0x0A, 0x1B, 0x37, 0x8D, 0x0A, 0x1B, 0x3E, 0x0D, 0x0A].map
        ((0, ·)) := by
  decide +kernel

end Printer

end PinPrinter
