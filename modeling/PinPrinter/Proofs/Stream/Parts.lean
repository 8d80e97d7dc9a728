import PinPrinter.Proofs.Stream.Token
import PinPrinter.Proofs.Stream.Turn

/-! # Sequences in parts

Where the reader stands before a sequence is over: inside of a command of a fixed layout, of which
nothing is known to the printer before its last byte, and inside of a bit image, whose bytes are
collected column by column until none of them is to come.
-/

namespace PinPrinter

/-- Where the reader stands with so many bytes of an image to go. -/
def Phase.imageLeft (columnBytes more : Nat) (column : Array UInt8) : Phase :=
  if more = 0 then .idle else .image more columnBytes column

theorem Phase.imageLeft_ne_idle {columnBytes more : Nat} {column : Array UInt8} (left : more ≠ 0) :
    imageLeft columnBytes more column ≠ .idle := by
  rw [imageLeft, if_neg left]
  nofun

theorem Command.length_bytes {c : Command} (simple : c.introducer ≠ .extended) :
    c.bytes.length = 2 := by
  unfold bytes
  cases introduced : c.introducer with
  | esc => rfl
  | fs => rfl
  | extended => exact absurd introduced simple

namespace Reader

variable (upper : Bool)

/-! ## Inside of a command -/

/-- As long as parameters are missing they are only collected. -/
theorem feedAll_params_of_short (c : Command) {needed : Nat} (collected : Array UInt8)
    {bytes : List UInt8} (short : collected.size + bytes.length < needed) :
    ({ phase := .params c needed collected, upperControl := upper } : Reader).feedAll bytes =
      ({ phase := .params c needed (collected ++ bytes.toArray), upperControl := upper }, []) := by
  induction bytes generalizing collected with
  | nil => simp [feedAll]
  | cons byte rest ih =>
    rw [List.length_cons] at short
    have grown : collected.push byte ++ rest.toArray = collected ++ (byte :: rest).toArray := by
      simp
    have step := ih (collected.push byte) (by
      rw [Array.size_push]
      omega)
    rw [grown] at step
    have more : (collected.push byte).size < needed := by
      rw [Array.size_push]
      omega
    exact feedAll_cons_silent (by simp only [feed, if_pos more]) step

/-- Behind the byte that introduces a command the reader waits for more. -/
theorem feedAll_take_one {c : Command} (simple : c.introducer ≠ .extended) :
    ∃ phase, phase ≠ .idle ∧ ({ upperControl := upper } : Reader).feedAll (c.bytes.take 1) =
      ({ phase := phase, upperControl := upper }, []) := by
  obtain ⟨introducer, opcode⟩ := c
  cases introducer with
  | esc => exact ⟨.escape, nofun, by cases upper <;> rfl⟩
  | fs => exact ⟨.fileSeparator, nofun, by cases upper <;> rfl⟩
  | extended => exact absurd rfl simple

theorem start_of_positive {c : Command} {needed : Nat} (layout : c.layout? = some (.fixed needed))
    (positive : 0 < needed) : start c = (.params c needed #[], none) := by
  obtain ⟨others, rfl⟩ := Nat.exists_eq_succ_of_ne_zero (Nat.ne_of_gt positive)
  simp only [start, layout]

variable {c : Command} {params : List UInt8}

/-- Before the last byte of a command nothing has happened, and the reader waits for more. -/
theorem feedAll_take_fixed (layout : c.layout? = some (.fixed params.length))
    (simple : c.introducer ≠ .extended)
    (plain : c.introducer = .esc → c.opcode ≠ Command.extension) {k : Nat} (begun : 0 < k)
    (more : k < (c.bytes ++ params).length) :
    ∃ phase, phase ≠ .idle ∧
      ({ upperControl := upper } : Reader).feedAll ((c.bytes ++ params).take k) =
        ({ phase := phase, upperControl := upper }, []) := by
  have two := Command.length_bytes simple
  rw [List.length_append] at more
  by_cases first : k = 1
  · subst first
    rw [List.take_append_of_le_length (by omega)]
    exact feedAll_take_one upper simple
  · have cut : (c.bytes ++ params).take k = c.bytes ++ params.take (k - 2) := by
      rw [List.take_append, List.take_of_length_le (by omega), two]
    have missing : (#[] : Array UInt8).size + (params.take (k - 2)).length < params.length := by
      rw [List.length_take, Array.size_empty]
      omega
    have announced := feedAll_command upper (by rw [layout]; rfl) plain
    rw [start_of_positive layout (by omega)] at announced
    have collected := feedAll_params_of_short upper c #[] missing
    rw [cut]
    exact ⟨.params c params.length _, nofun, feedAll_append_of announced collected⟩

/-- The byte that ends a sequence is read for what the whole sequence means. -/
theorem feed_of_feedAll_concat {r middle final : Reader} {bytes : List UInt8} {byte : UInt8}
    {action : Action} (silent : r.feedAll bytes = (middle, []))
    (whole : r.feedAll (bytes ++ [byte]) = (final, [action])) :
    middle.feed byte = (final, some action) := by
  rw [feedAll_append, silent] at whole
  rcases fed : middle.feed byte with ⟨next, _ | meant⟩
  · simp [feedAll, fed] at whole
  · simpa [feedAll, fed] using whole

/-! ## Inside of an image -/

theorem feed_imageLeft (columnBytes more : Nat) (column : Array UInt8) (byte : UInt8) :
    ({ phase := .imageLeft columnBytes (more + 1) column, upperControl := upper } : Reader).feed
        byte =
      if (column.push byte).size = columnBytes then
        ({ phase := .imageLeft columnBytes more #[], upperControl := upper },
          some (.column (column.push byte)))
      else
        ({ phase := .imageLeft columnBytes more (column.push byte), upperControl := upper },
          none) := by
  have opened : Phase.imageLeft columnBytes (more + 1) column =
      .image (more + 1) columnBytes column := rfl
  have left : more + 1 ≤ 1 ↔ more = 0 := by omega
  rw [opened]
  simp only [feed, takeImage, Phase.imageLeft, left, Nat.add_sub_cancel]
  by_cases full : (column.push byte).size = columnBytes
  · simp only [if_pos full]
  · simp only [if_neg full]

theorem beginImage_eq_imageLeft (columns : Nat) {columnBytes : Nat} (least : 1 ≤ columnBytes)
    (most : columnBytes ≤ maxColumnBytes) :
    ({ upperControl := upper } : Reader).beginImage columns columnBytes =
      { phase := .imageLeft columnBytes (columns * columnBytes) #[], upperControl := upper } := by
  by_cases empty : columns = 0
  · subst empty
    rw [Nat.zero_mul]
    rfl
  · have left : columns * columnBytes ≠ 0 := Nat.mul_ne_zero empty (Nat.ne_of_gt least)
    rw [beginImage_of_fits _ empty least most, Phase.imageLeft, if_neg left]

end Reader

end PinPrinter
