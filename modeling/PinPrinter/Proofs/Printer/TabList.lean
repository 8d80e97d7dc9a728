import PinPrinter.Proofs.Printer.Sequences
import PinPrinter.Proofs.Stream.TabList

/-! # Setting tab stops

The stops of a list are the front part of its ascent that there is room for. They stand at columns
of the pitch or at lines of the spacing that is set when the list ends; a list without numbers
cancels the stops. How long the list is depends on the bytes as they reach the reader, so it makes
no difference whether their highest bit is forced.
-/

namespace PinPrinter

/-- The settings with a tab stop at each of some columns or lines, and at no other. -/
def Registers.stoppedAt (r : Registers) : TabAxis → List UInt8 → Registers
  | .horizontal, columns =>
    { r with horizontalTabs := columns.map fun column => Float.ofNat column.toNat / r.cpi }
  | .vertical, lines =>
    { r with verticalTabs := .stops (lines.map fun line => Float.ofNat line.toNat * r.lineSpacing) }

theorem Registers.setTabs_of_fits (r : Registers) {axis : TabAxis} {numbers : List UInt8}
    (fits : numbers.length ≤ axis.capacity) :
    r.setTabs axis numbers = r.stoppedAt axis numbers := by
  simp only [setTabs, List.take_of_length_le fits]
  cases axis with
  | horizontal => rfl
  | vertical => rfl

namespace Printer

/-- With the byte that ends a list its stops are set, and nothing else changes. -/
theorem run_tabList {p : Printer} {axis : TabAxis} {front stops : List UInt8} {byte : UInt8}
    {collecting : Reader} (silent : p.interpreter.reader.feedAll front = (collecting, []))
    (ends : collecting.feed byte = (p.interpreter.reader, some (.tabs axis stops.toArray)))
    (fits : stops.length ≤ axis.capacity) {stamped : List (Nat × UInt8)}
    (sent : p.forced stamped = front ++ [byte]) :
    let q := p.run (job stamped)
    q.interpreter = { p.interpreter with registers := p.registers.stoppedAt axis stops } ∧
      q.paper = p.paper := by
  obtain ⟨before, last, rfl, told, ended⟩ := List.map_eq_append_iff.mp sent
  obtain ⟨⟨now, raw⟩, rfl, forced⟩ := List.map_eq_singleton_iff.mp ended
  rw [← told] at silent
  rw [← forced] at ends
  obtain ⟨interpreter, paper⟩ := run_concat_of_forced silent ends now
  refine ⟨interpreter.trans ?_, paper⟩
  rw [← Registers.setTabs_of_fits p.registers fits]
  rfl

/-- A list of tab stops is the longest ascent behind its announcement. While it is read nothing
happens. The byte behind it ends it and is used up, whether or not there was room for the one
before; the first numbers that there is room for become the stops, and nothing else changes. -/
theorem run_announced_list {r : Reader} (idle : r.phase = .idle) (literal : r.literal = 0)
    (announcement : TabAnnouncement) (bytes : List UInt8) :
    let list := ascent 0 bytes
    let stops := list.take announcement.axis.capacity
    (∀ front, front <+: list ↔ front <+: bytes ∧ (0 :: front).Pairwise (· < ·)) ∧
    (list.length + 1 ≤ 256 ∧ (256 ≤ bytes.length → ∃ byte rest, bytes = list ++ byte :: rest)) ∧
    (∀ front, front <+: announcement.bytes ++ list → (r.feedAll front).2 = []) ∧
    ∀ byte rest, bytes = list ++ byte :: rest →
      byte ≤ list.getLastD 0 ∧
      r.feedAll (announcement.bytes ++ list ++ [byte]) =
        (r, [.tabs announcement.axis stops.toArray]) ∧
      ∀ (p : Printer) (stamped : List (Nat × UInt8)), p.interpreter.reader = r →
        p.forced stamped = announcement.bytes ++ list ++ [byte] →
        (p.run (job stamped)).interpreter =
            { p.interpreter with registers := p.registers.stoppedAt announcement.axis stops } ∧
          (p.run (job stamped)).paper = p.paper := by
  intro list stops
  obtain ⟨phase, count, upper⟩ := r
  obtain rfl : phase = .idle := idle
  obtain rfl : count = 0 := literal
  have silent := Reader.feedAll_ascent upper announcement bytes
  refine ⟨fun front => prefix_ascent_iff, ⟨Nat.succ_le_succ (length_ascent_le bytes), exists_end⟩,
    fun front shorter => Reader.feedAll_prefix_silent shorter silent, ?_⟩
  intro byte rest cut
  have lower : byte ≤ list.getLastD 0 := le_of_eq_ascent_append cut
  have ends := Reader.feed_listing upper announcement.axis list byte
  rw [if_pos lower] at ends
  refine ⟨lower, Reader.feedAll_append_of silent (Reader.feedAll_cons_of ends rfl), ?_⟩
  intro p stamped reader sent
  rw [← reader] at silent ends
  exact run_tabList silent ends (List.length_take_le ..) sent

/-- More columns than there is room for, while the highest bit is forced to 0. The last byte arrives
as 43h. So did the column before it, for which there was no room, and the list ends. -/
theorem run_announced_list_full :
    let host : Host := { launch := fun _ _ => .error "no programs", date := "2024-02-29 12:30:00" }
    let p := (powerOn .letter host {}).run (job [(0, 0x1B), (0, 0x3D)])
    let columns : List UInt8 := (List.range 34).map fun i => UInt8.ofNat (2 * i + 1)
    let stamped := ([0x9B, 0x44] ++ columns ++ [0xC3]).map fun byte => (1, byte)
    let q := p.run (job stamped)
    (p.interpreter.reader.phase = .idle ∧ p.interpreter.reader.literal = 0 ∧
        p.registers.msb = some false ∧
        p.forced stamped = (TabAnnouncement.plain .horizontal).bytes ++ columns ++ [0x43]) ∧
      q.interpreter.reader.phase = .idle ∧
      q.registers.horizontalTabs = (columns.take 32).map fun column =>
        Float.ofNat column.toNat / p.registers.cpi := by
  intro host p columns stamped q
  have idle : p.interpreter.reader.phase = .idle := by decide +kernel
  have literal : p.interpreter.reader.literal = 0 := by decide +kernel
  have sent :
      p.forced stamped = (TabAnnouncement.plain .horizontal).bytes ++ columns ++ [0x43] := by
    decide +kernel
  have list : ascent 0 (columns ++ [0x43]) = columns := by decide +kernel
  obtain ⟨-, -, -, reads⟩ :=
    run_announced_list idle literal (.plain .horizontal) (columns ++ [0x43])
  rw [list] at reads
  obtain ⟨-, -, sets⟩ := reads 0x43 [] rfl
  obtain ⟨interpreter, -⟩ := sets p stamped rfl sent
  refine ⟨⟨idle, literal, by decide +kernel, sent⟩, ?_, ?_⟩
  · rw [interpreter]
    exact idle
  · rw [registers, interpreter]
    rfl

end Printer

end PinPrinter
