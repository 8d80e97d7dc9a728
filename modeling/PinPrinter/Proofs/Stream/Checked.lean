import PinPrinter.Proofs.Stream.WellFormed

/-! # A reader that checks its counters

A reader for a machine has counters that must not go below zero and lists of bounded size. Here is
one that fails where that would happen. From phases whose counters fit each other it never fails,
and it reads like the reader without checks.
-/

namespace PinPrinter

namespace Reader

/-- Append a byte, if there is room. -/
def push? (room : Nat) (bytes : Array UInt8) (byte : UInt8) : Option (Array UInt8) :=
  if bytes.size < room then some (bytes.push byte) else none

/-- Take from a count, unless it would go below zero. -/
def minus? (count less : Nat) : Option Nat :=
  if less ≤ count then some (count - less) else none

theorem push?_of_lt {room : Nat} {bytes : Array UInt8} (short : bytes.size < room) (byte : UInt8) :
    push? room bytes byte = some (bytes.push byte) :=
  if_pos short

theorem minus?_of_le {count less : Nat} (enough : less ≤ count) :
    minus? count less = some (count - less) :=
  if_pos enough

/-! ## The checks -/

/-- A byte of a bit image, with room for the widest column. -/
def takeImage? (remaining columnBytes : Nat) (column : Array UInt8) (byte : UInt8) :
    Option (Phase × Option Action) := do
  let column ← push? maxColumnBytes column byte
  let remaining ← minus? remaining 1
  let whole := column.size = columnBytes
  let phase := if remaining = 0 then .idle
    else .image remaining columnBytes (if whole then #[] else column)
  return (phase, if whole then some (.column column) else none)

/-- The pattern of one character is over: there is one character less to go. -/
def endPattern? (range : Array UInt8) (characters : Nat) : Option Phase := do
  let characters ← minus? characters 1
  return if characters = 0 then .idle else .definePattern range characters #[]

/-- A byte of the range of characters that are to be defined, with room for three. -/
def takeRange? (range : Array UInt8) (byte : UInt8) : Option Phase := do
  let range ← push? 3 range byte
  if range.size < 3 then return .defineRange range
  else
    let first := (range[1]?.getD 0).toNat
    let last := (range[2]?.getD 0).toNat
    if last < first then return .idle
    else
      let others ← minus? last first
      return .definePattern range (others + 1) #[]

/-- A byte of the header of a pattern, with room for three. -/
def takePattern? (range : Array UInt8) (characters : Nat) (header : Array UInt8) (byte : UInt8) :
    Option Phase := do
  let header ← push? 3 header byte
  if header.size < 3 then return .definePattern range characters header
  else
    let bytes := (header[1]?.getD 0).toNat * 3
    if bytes = 0 then endPattern? range characters
    else return .skipPattern range characters header bytes

/-- Take one byte, with every check. Tab stops need none: those beyond the capacity are dropped. -/
def feed? (r : Reader) (byte : UInt8) : Option (Reader × Option Action) :=
  let goto (next : Phase × Option Action) : Reader × Option Action :=
    ({ r with phase := next.1 }, next.2)
  match r.phase with
  | .params c needed collected => do
    let collected ← push? maxParams collected byte
    return if collected.size < needed then goto (.params c needed collected, none)
      else r.complete c collected
  | .image remaining columnBytes column => do
    let next ← takeImage? remaining columnBytes column byte
    return goto next
  | .payload c remaining data => do
    let remaining ← minus? remaining 1
    return if remaining = 0 then goto (.idle, some (.payload c (data.push byte)))
      else goto (.payload c remaining (data.push byte), none)
  | .skip c remaining => do
    let remaining ← minus? remaining 1
    return if remaining = 0 then goto (.idle, none) else goto (.skip c remaining, none)
  | .defineRange range => do
    let next ← takeRange? range byte
    return goto (next, none)
  | .definePattern range characters header => do
    let next ← takePattern? range characters header byte
    return goto (next, none)
  | .skipPattern range characters header remaining => do
    let remaining ← minus? remaining 1
    if remaining = 0 then
      let next ← endPattern? range characters
      return goto (next, none)
    else return goto (.skipPattern range characters header remaining, none)
  | _ => some (r.feed byte)

/-! ## No check fails -/

theorem takeImage?_eq {remaining columnBytes : Nat} {column : Array UInt8}
    (wellFormed : (Phase.image remaining columnBytes column).WellFormed) (byte : UInt8) :
    takeImage? remaining columnBytes column byte =
      some (takeImage remaining columnBytes column byte) := by
  obtain ⟨-, fits, more, short, -⟩ := wellFormed
  have room : column.size < maxColumnBytes := Nat.lt_of_lt_of_le short fits
  simp [takeImage?, takeImage, push?_of_lt room, minus?_of_le more, Nat.sub_eq_zero_iff_le]

theorem endPattern?_eq {range : Array UInt8} {characters : Nat} (more : 1 ≤ characters) :
    endPattern? range characters = some (endPattern range characters) := by
  simp [endPattern?, endPattern, minus?_of_le more, Nat.sub_eq_zero_iff_le]

theorem takeRange?_eq {range : Array UInt8} (short : range.size < 3) (byte : UInt8) :
    takeRange? range byte = some (takeRange range byte) := by
  simp only [takeRange?, takeRange, push?_of_lt short, Option.bind_eq_bind, Option.bind_some]
  by_cases more : (range.push byte).size < 3
  · rw [if_pos more, if_pos more]
    rfl
  · rw [if_neg more, if_neg more]
    split
    case isTrue => rfl
    case isFalse ordered =>
      rw [minus?_of_le (Nat.le_of_not_lt ordered)]
      rfl

theorem takePattern?_eq {range : Array UInt8} {characters : Nat} {header : Array UInt8}
    (wellFormed : (Phase.definePattern range characters header).WellFormed) (byte : UInt8) :
    takePattern? range characters header byte =
      some (takePattern range characters header byte) := by
  obtain ⟨-, ⟨counted, -⟩, short⟩ := wellFormed
  simp only [takePattern?, takePattern, push?_of_lt short, Option.bind_eq_bind, Option.bind_some]
  by_cases more : (header.push byte).size < 3
  · rw [if_pos more, if_pos more]
    rfl
  · rw [if_neg more, if_neg more]
    split
    · exact endPattern?_eq counted
    · rfl

/-- Where the counters fit each other, no check fails. -/
theorem feed?_eq {r : Reader} (wellFormed : r.phase.WellFormed) (byte : UInt8) :
    r.feed? byte = some (r.feed byte) := by
  unfold feed? feed
  cases stands : r.phase with
  | params c needed collected =>
    rw [stands] at wellFormed
    have room : collected.size < maxParams := Nat.lt_of_lt_of_le wellFormed.1 wellFormed.2
    dsimp only
    rw [push?_of_lt room]
    rfl
  | image remaining columnBytes column =>
    rw [stands] at wellFormed
    dsimp only
    rw [takeImage?_eq wellFormed]
    rfl
  | payload c remaining data =>
    rw [stands] at wellFormed
    simp [minus?_of_le wellFormed.1, Nat.sub_eq_zero_iff_le]
  | skip c remaining =>
    rw [stands] at wellFormed
    simp [minus?_of_le wellFormed.1, Nat.sub_eq_zero_iff_le]
  | defineRange range =>
    rw [stands] at wellFormed
    dsimp only
    rw [takeRange?_eq wellFormed]
    rfl
  | definePattern range characters header =>
    rw [stands] at wellFormed
    dsimp only
    rw [takePattern?_eq wellFormed]
    rfl
  | skipPattern range characters header remaining =>
    rw [stands] at wellFormed
    obtain ⟨-, ⟨counted, -⟩, -, more⟩ := wellFormed
    simp only [minus?_of_le more, endPattern?_eq counted, Option.bind_eq_bind, Option.bind_some,
      Nat.sub_eq_zero_iff_le]
    split <;> rfl
  | _ => rfl

/-- Whatever a new reader is asked to do, its counters fit each other afterwards: the next byte
takes none below zero and finds room wherever it is kept. -/
theorem checked_serve (requests : List Request) :
    let r := ({} : Reader).serve requests
    r.phase.WellFormed ∧ ∀ byte, r.feed? byte = some (r.feed byte) := by
  intro r
  have wellFormed : r.phase.WellFormed := wellFormed_serve (by trivial) requests
  exact ⟨wellFormed, feed?_eq wellFormed⟩

end Reader

end PinPrinter
