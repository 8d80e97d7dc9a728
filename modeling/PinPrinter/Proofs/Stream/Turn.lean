import PinPrinter.Stream.Reader

/-! # One byte at the reader

Whatever a byte turns out to mean, it leaves alone how the bytes from 80h to 9Fh are read, it makes
bytes literal only where a sequence ends, and it opens no bit image: that is what the printer does
when it answers an image command.
-/

namespace PinPrinter

/-- The number of bytes of a column, inside of a bit image. -/
def Phase.columnBytes? : Phase → Option Nat
  | .image _ columnBytes _ => some columnBytes
  | _ => none

namespace Reader

/-- What one byte can do: the reader before it, the reader after it, and what the byte meant. -/
structure Turn (r next : Reader) (action : Option Action) : Prop where
  upper : next.upperControl = r.upperControl
  literal : (0 < r.literal → r.phase = .idle) → 0 < next.literal → next.phase = .idle
  image : next.phase.columnBytes? = none ∨ next.phase.columnBytes? = r.phase.columnBytes?
  command : ∀ c params, action = some (.command c params) →
    r.phase ≠ .idle ∧ next.phase = .idle ∧ next.literal = r.literal
  column : ∀ bytes, action = some (.column bytes) → r.phase.columnBytes? = some bytes.size

variable {r : Reader}

/-- A byte that means nothing yet. No sequence is started from within literal bytes. -/
theorem Turn.silent (started : r.phase ≠ .idle ∨ r.literal = 0) {phase : Phase}
    (outside : phase.columnBytes? = none) : Turn r { r with phase := phase } none where
  upper := rfl
  literal settled positive := by
    rcases started with busy | notLiteral
    · exact absurd (settled positive) busy
    · exact absurd notLiteral (Nat.ne_of_gt positive)
  image := .inl outside
  command _ _ means := nomatch means
  column _ means := nomatch means

/-- A byte that ends a sequence. -/
theorem Turn.whole (busy : r.phase ≠ .idle) {action : Action}
    (notColumn : ∀ bytes, action ≠ .column bytes) :
    Turn r { r with phase := .idle } (some action) where
  upper := rfl
  literal _ _ := rfl
  image := .inl rfl
  command _ _ _ := ⟨busy, rfl, rfl⟩
  column bytes means := absurd (Option.some.inj means) (notColumn bytes)

/-- A byte between sequences that starts none. -/
theorem Turn.between {next : Reader} (upper : next.upperControl = r.upperControl)
    (idle : next.phase = .idle) {action : Option Action}
    (notCommand : ∀ c params, action ≠ some (.command c params))
    (notColumn : ∀ bytes, action ≠ some (.column bytes)) : Turn r next action where
  upper := upper
  literal _ _ := idle
  image := .inl (by rw [idle]; rfl)
  command c params means := absurd means (notCommand c params)
  column bytes means := absurd means (notColumn bytes)

/-! ## Parts of a byte stream -/

theorem turn_takeIdle (idle : r.phase = .idle) (byte : UInt8) :
    Turn r (r.takeIdle byte).1 (r.takeIdle byte).2 := by
  unfold takeIdle
  by_cases pending : 0 < r.literal
  · simp only [if_pos pending]
    apply Turn.between
    · rfl
    · exact idle
    · nofun
    · nofun
  · rw [if_neg pending]
    have notLiteral : r.literal = 0 := Nat.eq_zero_of_not_pos pending
    dsimp only
    generalize (r.upperControl && (decide (0x80 ≤ byte) && decide (byte ≤ 0x9F))) = upper
    generalize (if upper = true then byte &&& 0x7F else byte) = code
    by_cases escape : code = Control.escape
    · rw [if_pos escape]
      exact .silent (.inr notLiteral) rfl
    · rw [if_neg escape]
      by_cases separator : code = Control.fileSeparator
      · rw [if_pos separator]
        exact .silent (.inr notLiteral) rfl
      · rw [if_neg separator]
        cases Control.ofByte? code with
        | some control => exact .between (by rfl) idle nofun nofun
        | none => cases upper <;> exact .between (by rfl) idle nofun nofun

theorem turn_start (busy : r.phase ≠ .idle) (c : Command) :
    Turn r { r with phase := (start c).1 } (start c).2 := by
  unfold start
  split
  · exact .silent (.inl busy) rfl
  · exact .whole busy nofun
  all_goals exact .silent (.inl busy) rfl

theorem turn_startExtended (busy : r.phase ≠ .idle) (c : Command) :
    Turn r { r with phase := (startExtended c).1 } (startExtended c).2 := by
  unfold startExtended
  by_cases known : c.layout?.isSome
  · rw [if_pos known]
    exact turn_start busy c
  · rw [if_neg known]
    exact .silent (.inl busy) rfl

theorem turn_complete (busy : r.phase ≠ .idle) (c : Command) (params : Array UInt8) :
    Turn r (r.complete c params).1 (r.complete c params).2 := by
  unfold complete
  by_cases inches : c = Command.pageLength ∧ params = #[0]
  · rw [if_pos inches]
    exact .silent (.inl busy) rfl
  · rw [if_neg inches]
    dsimp only
    cases c.layout? with
    | none =>
      by_cases empty : Command.word params 0 = 0
      · simp only [if_pos empty]
        exact .silent (.inl busy) rfl
      · simp only [if_neg empty]
        exact .silent (.inl busy) rfl
    | some layout =>
      cases layout with
      | counted =>
        dsimp only
        by_cases printed : c = Command.printData
        · simp only [if_pos printed]
          exact .between (by rfl) (by rfl) nofun nofun
        · rw [if_neg printed]
          by_cases empty : Command.word params 0 = 0
          · rw [if_pos empty]
            exact .whole busy nofun
          · rw [if_neg empty]
            exact .silent (.inl busy) rfl
      | _ => exact .whole busy nofun

theorem turn_takeTab (busy : r.phase ≠ .idle) (axis : TabAxis) (stops : Array UInt8)
    (last byte : UInt8) :
    Turn r { r with phase := (takeTab axis stops last byte).1 }
      (takeTab axis stops last byte).2 := by
  unfold takeTab
  by_cases ends : byte = 0 ∨ (stops.isEmpty = false ∧ byte ≤ last)
  · rw [if_pos ends]
    exact .whole busy nofun
  · rw [if_neg ends]
    exact .silent (.inl busy) rfl

theorem turn_takeImage {remaining columnBytes : Nat} {column : Array UInt8}
    (inside : r.phase = .image remaining columnBytes column) (byte : UInt8) :
    Turn r { r with phase := (takeImage remaining columnBytes column byte).1 }
      (takeImage remaining columnBytes column byte).2 where
  upper := rfl
  literal settled positive := by
    have idle := settled positive
    rw [inside] at idle
    cases idle
  image := by
    rw [inside]
    unfold takeImage
    by_cases last : remaining ≤ 1
    · simp only [if_pos last]
      exact .inl rfl
    · simp only [if_neg last]
      exact .inr rfl
  command c params means := by
    unfold takeImage at means
    by_cases whole : (column.push byte).size = columnBytes <;> simp [whole] at means
  column bytes means := by
    unfold takeImage at means
    by_cases whole : (column.push byte).size = columnBytes
    · simp only [if_pos whole, Option.some.injEq, Action.column.injEq] at means
      rw [inside, ← means, whole]
      rfl
    · simp only [if_neg whole] at means
      cases means

theorem columnBytes?_endPattern (range : Array UInt8) (characters : Nat) :
    (endPattern range characters).columnBytes? = none := by
  unfold endPattern
  split <;> rfl

theorem columnBytes?_takeRange (range : Array UInt8) (byte : UInt8) :
    (takeRange range byte).columnBytes? = none := by
  unfold takeRange
  dsimp only
  split
  · rfl
  · split <;> rfl

theorem columnBytes?_takePattern (range : Array UInt8) (characters : Nat) (header : Array UInt8)
    (byte : UInt8) : (takePattern range characters header byte).columnBytes? = none := by
  unfold takePattern
  dsimp only
  split
  · rfl
  · split
    · exact columnBytes?_endPattern range characters
    · rfl

/-! ## The whole reader -/

/-- Reading one byte is a turn, wherever the reader stands. -/
theorem turn_feed (r : Reader) (byte : UInt8) : Turn r (r.feed byte).1 (r.feed byte).2 := by
  have busy {phase : Phase} (stands : r.phase = phase) (inside : phase ≠ .idle) :
      r.phase ≠ .idle := stands ▸ inside
  unfold feed
  cases stands : r.phase with
  | idle => exact turn_takeIdle stands byte
  | escape =>
    dsimp only
    split
    · exact .silent (.inl (busy stands nofun)) rfl
    · exact turn_start (busy stands nofun) _
  | fileSeparator => exact turn_start (busy stands nofun) _
  | extended => exact turn_startExtended (busy stands nofun) _
  | params c needed collected =>
    dsimp only
    split
    · exact .silent (.inl (busy stands nofun)) rfl
    · exact turn_complete (busy stands nofun) _ _
  | tabs axis stops last => exact turn_takeTab (busy stands nofun) _ _ _ _
  | channel => exact .silent (.inl (busy stands nofun)) rfl
  | image remaining columnBytes column => exact turn_takeImage stands byte
  | payload c remaining data =>
    dsimp only
    split
    · exact .whole (busy stands nofun) nofun
    · exact .silent (.inl (busy stands nofun)) rfl
  | skip c remaining =>
    dsimp only
    split <;> exact .silent (.inl (busy stands nofun)) rfl
  | defineRange range =>
    exact .silent (.inl (busy stands nofun)) (columnBytes?_takeRange range byte)
  | definePattern range characters header =>
    exact .silent (.inl (busy stands nofun)) (columnBytes?_takePattern range characters header byte)
  | skipPattern range characters header remaining =>
    dsimp only
    split
    · exact .silent (.inl (busy stands nofun)) (columnBytes?_endPattern range characters)
    · exact .silent (.inl (busy stands nofun)) rfl

/-! ## Bytes from 80h to 9Fh -/

/-- Bytes from 80h on are neither control codes nor `ESC` or `FS`. -/
theorem feed_character_of_upper {byte : UInt8} (idle : r.phase = .idle) (literal : r.literal = 0)
    (off : r.upperControl = false) (least : 0x80 ≤ byte) :
    r.feed byte = (r, some (.print byte)) := by
  have notLow {low : UInt8} (bound : low < 0x80) : byte ≠ low := by
    rintro rfl
    exact absurd bound (UInt8.not_lt.mpr least)
  have notEscape : byte ≠ Control.escape := notLow (by decide)
  have notSeparator : byte ≠ Control.fileSeparator := notLow (by decide)
  have notControl : Control.ofByte? byte = none := by
    cases found : Control.ofByte? byte with
    | none => rfl
    | some code =>
      refine absurd (Control.byte_of_ofByte? found).symm (notLow ?_)
      cases code <;> decide
  simp [feed, takeIdle, idle, literal, off, notControl, notEscape, notSeparator]

/-- Where the bytes from 80h to 9Fh repeat control codes, none of them is a character. -/
theorem feed_control_of_upper {byte : UInt8} (idle : r.phase = .idle) (literal : r.literal = 0)
    (on : r.upperControl = true) (least : 0x80 ≤ byte) (most : byte ≤ 0x9F) :
    (r.feed byte).2 =
      if byte &&& 0x7F = Control.escape ∨ byte &&& 0x7F = Control.fileSeparator then none
      else (Control.ofByte? (byte &&& 0x7F)).map .control := by
  have upper : (decide (0x80 ≤ byte) && decide (byte ≤ 0x9F)) = true := by simp [least, most]
  simp only [feed, idle, takeIdle, literal, Nat.lt_irrefl, if_false, on, upper, Bool.and_self,
    if_true]
  generalize byte &&& 0x7F = low
  by_cases escape : low = Control.escape
  · rw [if_pos escape, if_pos (.inl escape)]
  · by_cases separator : low = Control.fileSeparator
    · rw [if_neg escape, if_pos separator, if_pos (.inr separator)]
    · rw [if_neg escape, if_neg separator, if_neg (not_or.mpr ⟨escape, separator⟩)]
      cases Control.ofByte? low <;> rfl

/-- Between sequences the bytes from 80h to 9Fh are characters unless they repeat control codes. -/
theorem feed_upper {byte : UInt8} (idle : r.phase = .idle) (literal : r.literal = 0)
    (least : 0x80 ≤ byte) (most : byte ≤ 0x9F) :
    (∃ printed, (r.feed byte).2 = some (.print printed)) ↔ r.upperControl = false := by
  constructor
  · rintro ⟨printed, means⟩
    cases on : r.upperControl with
    | false => rfl
    | true =>
      rw [feed_control_of_upper idle literal on least most] at means
      split at means
      · cases means
      · obtain ⟨code, -, equal⟩ := Option.map_eq_some_iff.mp means
        cases equal
  · intro off
    exact ⟨byte, by rw [feed_character_of_upper idle literal off least]⟩

/-! ## Bit images -/

/-- A column that the reader can hold is as long as asked for. -/
theorem beginImage_of_fits (r : Reader) {columns columnBytes : Nat} (nonempty : columns ≠ 0)
    (least : 1 ≤ columnBytes) (most : columnBytes ≤ maxColumnBytes) :
    r.beginImage columns columnBytes =
      { r with phase := .image (columns * columnBytes) columnBytes #[] } := by
  have clamped : max 1 (min columnBytes maxColumnBytes) = columnBytes := by omega
  simp only [beginImage, if_neg nonempty, clamped]

end Reader

end PinPrinter
