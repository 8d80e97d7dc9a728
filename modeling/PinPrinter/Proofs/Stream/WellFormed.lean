import PinPrinter.Proofs.Stream.Token

/-! # The counters of the reader

A phase couples its counters: parameters are still missing as long as they are collected, a counted
block has a byte to go, the bytes to go of a bit image end on a whole column, tab stops ascend, and
a definition of characters goes from its range to the header of a pattern to the bytes of one. This
holds whatever the reader is asked to do, in whatever order, also when the printer starts a bit image
inside another sequence.
-/

namespace PinPrinter

/-- The most parameters that a command can have. -/
def Reader.maxParams : Nat := 8

/-- The counters of a phase fit each other. Data that is passed over is not kept, a definition of
characters counts them only once its range is whole, and the bytes of a pattern only once its header
is; the phases have no such parts before. -/
def Phase.WellFormed : Phase → Prop
  | .idle | .escape | .fileSeparator | .extended | .channel => True
  | .params _ needed collected => collected.size < needed ∧ needed ≤ Reader.maxParams
  | .tabs axis stops last =>
    (0 :: stops.toList).Pairwise (· < ·) ∧ stops.size ≤ axis.capacity ∧
      ∀ stop ∈ stops.toList, stop ≤ last
  | .image remaining columnBytes column =>
    1 ≤ columnBytes ∧ columnBytes ≤ Reader.maxColumnBytes ∧ 1 ≤ remaining ∧
      column.size < columnBytes ∧ columnBytes ∣ column.size + remaining
  | .payload _ remaining _ | .skip _ remaining => 1 ≤ remaining ∧ remaining ≤ 65535
  | .defineRange range => range.size < 3
  | .definePattern range characters header =>
    range.size = 3 ∧ (1 ≤ characters ∧ characters ≤ 256) ∧ header.size < 3
  | .skipPattern range characters header remaining =>
    range.size = 3 ∧ (1 ≤ characters ∧ characters ≤ 256) ∧ header.size = 3 ∧ 1 ≤ remaining

/-- What the reader can be asked to do. -/
inductive Request where
  | feed (byte : UInt8)
  | reset
  | printLiterally (count : Nat)
  | setUpperControl (on : Bool)
  | beginImage (columns columnBytes : Nat)
  deriving DecidableEq, Repr

namespace Reader

/-- Do what is asked. -/
def answer (r : Reader) : Request → Reader
  | .feed byte => (r.feed byte).1
  | .reset => {}
  | .printLiterally count => r.printLiterally count
  | .setUpperControl on => r.setUpperControl on
  | .beginImage columns columnBytes => r.beginImage columns columnBytes

/-- Do one request after the other. -/
def serve (r : Reader) (requests : List Request) : Reader :=
  requests.foldl answer r

/-! ## Opening a sequence -/

/-- Every command has room for its parameters. -/
theorem fixed_le_maxParams {c : Command} {needed : Nat}
    (layout : c.layout? = some (.fixed needed)) :
    needed ≤ maxParams := by
  have bounded : Command.table.all (fun row => match row.layout with
    | .fixed count => count ≤ maxParams
    | _ => true) = true := by decide +kernel
  obtain ⟨row, found, fixed⟩ := Option.map_eq_some_iff.mp layout
  have short := List.all_eq_true.mp bounded row (List.mem_of_find?_eq_some found)
  rw [fixed] at short
  exact of_decide_eq_true short

theorem wellFormed_params (c : Command) {needed : Nat} (positive : 0 < needed)
    (room : needed ≤ maxParams) : (Phase.params c needed #[]).WellFormed :=
  ⟨positive, room⟩

theorem wellFormed_tabs (axis : TabAxis) : (Phase.tabs axis #[] 0).WellFormed :=
  ⟨List.pairwise_singleton _ _, Nat.zero_le _, nofun⟩

theorem wellFormed_start (c : Command) : (start c).1.WellFormed := by
  unfold start
  split
  case h_1 => trivial
  case h_2 => trivial
  case h_3 needed notZero layout =>
    exact wellFormed_params c (Nat.pos_of_ne_zero notZero) (fixed_le_maxParams layout)
  case h_4 => exact wellFormed_params c (by decide) (by decide)
  case h_5 => exact wellFormed_tabs _
  case h_6 => exact wellFormed_tabs _
  case h_7 => trivial
  case h_8 => exact Nat.zero_lt_succ 2

theorem wellFormed_startExtended (c : Command) : (startExtended c).1.WellFormed := by
  unfold startExtended
  split
  · exact wellFormed_start c
  · exact wellFormed_params c (by decide) (by decide)

/-! ## One byte inside a sequence -/

/-- A count of two bytes is a number of bytes to go, if it is not zero. -/
theorem word_bounds {params : Array UInt8} (nonzero : Command.word params 0 ≠ 0) :
    1 ≤ Command.word params 0 ∧ Command.word params 0 ≤ 65535 :=
  ⟨Nat.one_le_iff_ne_zero.mpr nonzero, Nat.le_of_lt_succ (Command.word_lt params 0)⟩

theorem wellFormed_complete (r : Reader) (c : Command) (params : Array UInt8) :
    (r.complete c params).1.phase.WellFormed := by
  unfold complete
  by_cases inches : c = Command.pageLength ∧ params = #[0]
  · rw [if_pos inches, inches.2]
    exact ⟨by decide, by decide⟩
  · rw [if_neg inches]
    dsimp only
    cases c.layout? with
    | none =>
      by_cases empty : Command.word params 0 = 0
      · simp only [if_pos empty]
        trivial
      · simp only [if_neg empty]
        exact word_bounds empty
    | some layout =>
      cases layout with
      | counted =>
        by_cases printed : c = Command.printData
        · simp only [if_pos printed]
          trivial
        · by_cases empty : Command.word params 0 = 0
          · simp only [if_neg printed, if_pos empty]
            trivial
          · simp only [if_neg printed, if_neg empty]
            exact word_bounds empty
      | _ => trivial

theorem wellFormed_takeIdle {r : Reader} (idle : r.phase = .idle) (byte : UInt8) :
    (r.takeIdle byte).1.phase.WellFormed := by
  have between : r.phase.WellFormed := idle ▸ trivial
  unfold takeIdle
  by_cases pending : 0 < r.literal
  · rw [if_pos pending]
    exact between
  · rw [if_neg pending]
    dsimp only
    generalize (r.upperControl && (decide (0x80 ≤ byte) && decide (byte ≤ 0x9F))) = upper
    generalize (if upper = true then byte &&& 0x7F else byte) = code
    by_cases escape : code = Control.escape
    · rw [if_pos escape]
      trivial
    · rw [if_neg escape]
      by_cases separator : code = Control.fileSeparator
      · rw [if_pos separator]
        trivial
      · rw [if_neg separator]
        cases Control.ofByte? code <;> exact between

/-- A byte that goes on with a list is behind all of its stops, also behind one that was dropped. -/
theorem wellFormed_takeTab {axis : TabAxis} {stops : Array UInt8} {last : UInt8}
    (wellFormed : (Phase.tabs axis stops last).WellFormed) (byte : UInt8) :
    (takeTab axis stops last byte).1.WellFormed := by
  obtain ⟨ascending, fits, reached⟩ := wellFormed
  unfold takeTab
  split
  case isTrue => trivial
  case isFalse open_ =>
    obtain ⟨nonzero, beyond⟩ := not_or.mp open_
    have below : ∀ stop ∈ stops.toList, stop < byte := by
      intro stop member
      have nonempty : stops.isEmpty = false := by
        simp only [Array.isEmpty_eq_false_iff]
        rintro rfl
        cases member
      have ascends : last < byte := UInt8.not_le.mp fun least => beyond ⟨nonempty, least⟩
      exact UInt8.lt_of_le_of_lt (reached stop member) ascends
    by_cases room : stops.size < axis.capacity
    · simp only [if_pos room]
      refine ⟨?_, ?_, ?_⟩
      · rw [Array.toList_push, ← List.cons_append]
        apply List.pairwise_append.mpr
        refine ⟨ascending, List.pairwise_singleton _ _, ?_⟩
        intro stop member other last_
        obtain rfl := List.mem_singleton.mp last_
        rcases List.mem_cons.mp member with rfl | member
        · exact UInt8.pos_iff_ne_zero.mpr nonzero
        · exact below stop member
      · rw [Array.size_push]
        exact room
      · intro stop member
        rw [Array.toList_push] at member
        rcases List.mem_append.mp member with earlier | latest
        · exact UInt8.le_of_lt (below stop earlier)
        · exact UInt8.le_of_eq (List.mem_singleton.mp latest)
    · simp only [if_neg room]
      exact ⟨ascending, fits, fun stop member => UInt8.le_of_lt (below stop member)⟩

/-- A bit image keeps its bytes to go on whole columns. -/
theorem wellFormed_takeImage {remaining columnBytes : Nat} {column : Array UInt8}
    (wellFormed : (Phase.image remaining columnBytes column).WellFormed) (byte : UInt8) :
    (takeImage remaining columnBytes column byte).1.WellFormed := by
  obtain ⟨positive, fits, more, short, whole⟩ := wellFormed
  unfold takeImage
  dsimp only
  by_cases last : remaining ≤ 1
  · rw [if_pos last]
    trivial
  · have later : 1 ≤ remaining - 1 := by omega
    -- What the byte takes from the bytes to go it adds to the column.
    have carried : (column.push byte).size + (remaining - 1) = column.size + remaining := by
      rw [Array.size_push]
      omega
    rw [← carried] at whole
    rw [if_neg last]
    by_cases full : (column.push byte).size = columnBytes
    · rw [full, Nat.dvd_add_right (Nat.dvd_refl _)] at whole
      rw [if_pos full]
      exact ⟨positive, fits, later, positive, by simpa using whole⟩
    · rw [if_neg full]
      have room : (column.push byte).size < columnBytes := by
        rw [Array.size_push] at full ⊢
        omega
      exact ⟨positive, fits, later, room, whole⟩

theorem wellFormed_endPattern {range : Array UInt8} {characters : Nat} (opened : range.size = 3)
    (fits : characters ≤ 256) : (endPattern range characters).WellFormed := by
  unfold endPattern
  by_cases last : characters ≤ 1
  · rw [if_pos last]
    trivial
  · rw [if_neg last]
    exact ⟨opened, by omega, by decide⟩

/-- A range of bytes holds at most 256 characters. -/
theorem wellFormed_takeRange {range : Array UInt8} (short : range.size < 3) (byte : UInt8) :
    (takeRange range byte).WellFormed := by
  unfold takeRange
  dsimp only
  by_cases more : (range.push byte).size < 3
  · rw [if_pos more]
    exact more
  · rw [if_neg more]
    split
    case isTrue => trivial
    case isFalse =>
      have opened : (range.push byte).size = 3 := by
        rw [Array.size_push] at more ⊢
        omega
      have reach := ((range.push byte)[2]?.getD 0).toNat_lt
      exact ⟨opened, by omega, by decide⟩

theorem wellFormed_takePattern {range : Array UInt8} {characters : Nat} {header : Array UInt8}
    (wellFormed : (Phase.definePattern range characters header).WellFormed) (byte : UInt8) :
    (takePattern range characters header byte).WellFormed := by
  obtain ⟨opened, counted, short⟩ := wellFormed
  unfold takePattern
  dsimp only
  by_cases more : (header.push byte).size < 3
  · rw [if_pos more]
    exact ⟨opened, counted, more⟩
  · rw [if_neg more]
    split
    case isTrue => exact wellFormed_endPattern opened counted.2
    case isFalse nonempty =>
      have full : (header.push byte).size = 3 := by
        rw [Array.size_push] at more ⊢
        omega
      exact ⟨opened, counted, full, Nat.one_le_iff_ne_zero.mpr nonempty⟩

/-! ## Whatever is asked -/

variable {r : Reader}

theorem wellFormed_feed (wellFormed : r.phase.WellFormed) (byte : UInt8) :
    (r.feed byte).1.phase.WellFormed := by
  unfold feed
  cases stands : r.phase with
  | idle => exact wellFormed_takeIdle stands byte
  | escape =>
    dsimp only
    split
    · trivial
    · exact wellFormed_start _
  | fileSeparator => exact wellFormed_start _
  | extended => exact wellFormed_startExtended _
  | channel => exact wellFormed_tabs _
  | params c needed collected =>
    rw [stands] at wellFormed
    dsimp only
    by_cases more : (collected.push byte).size < needed
    · rw [if_pos more]
      exact ⟨more, wellFormed.2⟩
    · rw [if_neg more]
      exact wellFormed_complete r c _
  | tabs axis stops last => exact wellFormed_takeTab (stands ▸ wellFormed) byte
  | image remaining columnBytes column => exact wellFormed_takeImage (stands ▸ wellFormed) byte
  | payload c remaining data =>
    rw [stands] at wellFormed
    obtain ⟨-, fits⟩ := wellFormed
    dsimp only
    split
    · trivial
    · exact ⟨by omega, by omega⟩
  | skip c remaining =>
    rw [stands] at wellFormed
    obtain ⟨-, fits⟩ := wellFormed
    dsimp only
    split
    · trivial
    · exact ⟨by omega, by omega⟩
  | defineRange range =>
    rw [stands] at wellFormed
    exact wellFormed_takeRange wellFormed byte
  | definePattern range characters header =>
    exact wellFormed_takePattern (stands ▸ wellFormed) byte
  | skipPattern range characters header remaining =>
    rw [stands] at wellFormed
    obtain ⟨opened, counted, full, -⟩ := wellFormed
    dsimp only
    split
    · exact wellFormed_endPattern opened counted.2
    · exact ⟨opened, counted, full, by omega⟩

/-- A bit image starts with all of its bytes to go, whatever the reader was in the middle of. -/
theorem wellFormed_beginImage (wellFormed : r.phase.WellFormed) (columns columnBytes : Nat) :
    (r.beginImage columns columnBytes).phase.WellFormed := by
  unfold beginImage
  by_cases empty : columns = 0
  · rw [if_pos empty]
    exact wellFormed
  · rw [if_neg empty]
    dsimp only
    generalize bytes_eq : max 1 (min columnBytes maxColumnBytes) = bytes
    have positive : 1 ≤ bytes := bytes_eq ▸ Nat.le_max_left ..
    have fits : bytes ≤ maxColumnBytes :=
      bytes_eq ▸ Nat.max_le.mpr ⟨by decide, Nat.min_le_right ..⟩
    have more : 1 ≤ columns * bytes := Nat.mul_pos (Nat.pos_of_ne_zero empty) positive
    refine ⟨positive, fits, more, positive, ?_⟩
    rw [Array.size_empty, Nat.zero_add]
    exact Nat.dvd_mul_left bytes columns

theorem wellFormed_answer (wellFormed : r.phase.WellFormed) (request : Request) :
    (r.answer request).phase.WellFormed := by
  cases request with
  | feed byte => exact wellFormed_feed wellFormed byte
  | reset => trivial
  | printLiterally count => exact wellFormed
  | setUpperControl on => exact wellFormed
  | beginImage columns columnBytes => exact wellFormed_beginImage wellFormed columns columnBytes

theorem wellFormed_serve (wellFormed : r.phase.WellFormed) (requests : List Request) :
    (r.serve requests).phase.WellFormed := by
  induction requests generalizing r with
  | nil => exact wellFormed
  | cons request rest ih => exact ih (wellFormed_answer wellFormed request)

end Reader

end PinPrinter
