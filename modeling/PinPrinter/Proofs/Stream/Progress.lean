import Mathlib.Data.Stream.Init
import PinPrinter.Proofs.Stream.WellFormed

/-! # The reader gets out of every sequence

Each phase has a limit: no more bytes than that come before the reader is between sequences again.
A byte inside a sequence takes at least one from the limit, also where a count is read from the
stream: the patterns of user-defined characters are charged at their longest as soon as it is known
how many there are, and a counted command is charged with the most that a count of two bytes can
announce. A list of tab stops is no longer than its bytes can ascend, however many of them are kept.

The widest bit image is longer than anything that bytes alone can open.
-/

namespace PinPrinter

namespace Phase

/-- The most data that a count of two bytes can announce. -/
def longestData : Nat := 65535

/-- The longest pattern of one character: three bytes, and three for each column. -/
def longestPattern : Nat := 3 + 255 * 3

/-- The longest definition of characters: a range, and a pattern for every byte. -/
def longestDefinition : Nat := 3 + 256 * longestPattern

/-- The widest bit image, in bytes. -/
def longestImage : Nat := longestData * Reader.maxColumnBytes

/-- No more bytes than this come before the reader is between sequences again. -/
def limit : Phase → Nat
  | .idle => 0
  | .escape => longestDefinition + 2
  | .fileSeparator | .extended => longestDefinition + 1
  -- A page length in inches asks for a parameter more, so `needed` is no bound on what is to come.
  | .params _ _ collected => longestData + (Reader.maxParams - collected.size)
  | .tabs _ stops last => if stops.isEmpty then 256 else 256 - last.toNat
  | .channel => 257
  | .image remaining _ _ | .payload _ remaining _ | .skip _ remaining => remaining
  | .defineRange range => longestDefinition - range.size
  | .definePattern _ characters header => characters * longestPattern - header.size
  | .skipPattern _ characters _ remaining => (characters - 1) * longestPattern + remaining

end Phase

/-- A request for a bit image has as many columns as a count of two bytes can announce. -/
def Request.Fits : Request → Prop
  | .beginImage columns _ => columns ≤ Phase.longestData
  | _ => True

instance : (request : Request) → Decidable request.Fits
  | .beginImage columns _ => inferInstanceAs (Decidable (columns ≤ Phase.longestData))
  | .feed _ | .reset | .printLiterally _ | .setUpperControl _ => inferInstanceAs (Decidable True)

namespace Reader

open Phase

/-! ## Opening a sequence -/

/-- Nothing is longer than a definition of characters before a count has been read. -/
theorem announced_le : longestData + maxParams ≤ longestDefinition := by
  decide

theorem limit_start_le (c : Command) : (start c).1.limit ≤ longestDefinition := by
  have list : 257 ≤ longestDefinition := by decide
  unfold start
  split
  case h_1 => exact Nat.zero_le _
  case h_2 => exact Nat.zero_le _
  case h_3 => exact announced_le
  case h_4 => exact announced_le
  case h_5 => exact Nat.le_of_succ_le list
  case h_6 => exact Nat.le_of_succ_le list
  case h_7 => exact list
  case h_8 => exact Nat.le_refl _

theorem limit_startExtended_le (c : Command) : (startExtended c).1.limit ≤ longestDefinition := by
  unfold startExtended
  split
  · exact limit_start_le c
  · exact announced_le

/-! ## One byte inside a sequence -/

/-- Behind its parameters a command has at most the data that two of them can announce. -/
theorem limit_complete_le (r : Reader) (c : Command) (params : Array UInt8) :
    (r.complete c params).1.phase.limit ≤ longestData + (maxParams - params.size) := by
  have data : Command.word params 0 ≤ longestData := Nat.le_of_lt_succ (Command.word_lt params 0)
  simp only [complete]
  split
  · exact Nat.le_refl _
  · split
    · split
      · exact Nat.zero_le _
      · exact Nat.le_add_right_of_le data
    · split
      · exact Nat.zero_le _
      · split
        · exact Nat.zero_le _
        · exact Nat.le_add_right_of_le data
    · exact Nat.zero_le _

/-- What a list of tab stops can still hold is bounded by its latest byte, kept or dropped. -/
theorem limit_takeTab_lt (axis : TabAxis) (stops : Array UInt8) (last byte : UInt8) :
    (takeTab axis stops last byte).1.limit < if stops.isEmpty then 256 else 256 - last.toNat := by
  have reach := last.toNat_lt
  unfold takeTab
  split
  case isTrue =>
    change 0 < _
    split <;> omega
  case isFalse more =>
    obtain ⟨nonzero, beyond⟩ := not_or.mp more
    have positive : 0 < byte.toNat := UInt8.lt_iff_toNat_lt.mp (UInt8.pos_iff_ne_zero.mpr nonzero)
    cases empty : stops.isEmpty with
    | true =>
      have room : stops.size < axis.capacity := by
        rw [Array.isEmpty_iff] at empty
        rw [empty]
        cases axis <;> decide
      simp only [limit, if_pos room, Array.isEmpty_push, if_true, Bool.false_eq_true, if_false]
      omega
    | false =>
      have above : last.toNat < byte.toNat :=
        UInt8.lt_iff_toNat_lt.mp (UInt8.not_le.mp fun least => beyond ⟨empty, least⟩)
      have kept :
          (if stops.size < axis.capacity then stops.push byte else stops).isEmpty = false := by
        split
        · exact Array.isEmpty_push
        · exact empty
      simp only [limit, kept, Bool.false_eq_true, if_false]
      omega

theorem limit_takeImage_lt {remaining columnBytes : Nat} {column : Array UInt8}
    (more : 1 ≤ remaining) (byte : UInt8) :
    (takeImage remaining columnBytes column byte).1.limit < remaining := by
  simp only [takeImage]
  split
  · exact more
  · exact Nat.sub_lt more Nat.one_pos

theorem limit_endPattern_le (range : Array UInt8) (characters : Nat) :
    (endPattern range characters).limit ≤ (characters - 1) * longestPattern := by
  simp only [endPattern]
  split
  · exact Nat.zero_le _
  · exact Nat.sub_le ..

theorem limit_takeRange_lt {range : Array UInt8} (short : range.size < 3) (byte : UInt8) :
    (takeRange range byte).limit < longestDefinition - range.size := by
  simp only [takeRange, longestDefinition, Array.size_push]
  split
  · simp only [limit, longestDefinition, Array.size_push]
    omega
  · have reach := ((range.push byte)[2]?.getD 0).toNat_lt
    split
    · simp only [limit]
      omega
    · simp only [limit, longestPattern, Array.size_empty]
      omega

theorem limit_takePattern_lt {range : Array UInt8} {characters : Nat} {header : Array UInt8}
    (counted : 1 ≤ characters) (short : header.size < 3) (byte : UInt8) :
    (takePattern range characters header byte).limit <
      characters * longestPattern - header.size := by
  have whole :
      characters * longestPattern = (characters - 1) * longestPattern + longestPattern := by
    rw [← Nat.succ_mul, Nat.succ_eq_add_one, Nat.sub_add_cancel counted]
  rw [whole]
  simp only [takePattern, Array.size_push]
  split
  · simp only [limit, Array.size_push, longestPattern]
    omega
  · split
    · have ended := limit_endPattern_le range characters
      simp only [longestPattern] at ended ⊢
      omega
    · have columns := ((header.push byte)[1]?.getD 0).toNat_lt
      simp only [limit, longestPattern]
      omega

/-! ## The whole reader -/

variable {r : Reader}

/-- A byte between sequences opens at most one of them. -/
theorem limit_takeIdle_le (idle : r.phase = .idle) (byte : UInt8) :
    (r.takeIdle byte).1.phase.limit ≤ longestDefinition + 2 := by
  have between : r.phase.limit ≤ longestDefinition + 2 := by
    rw [idle]
    exact Nat.zero_le _
  unfold takeIdle
  split
  · exact between
  · dsimp only
    generalize (if (r.upperControl && (decide (0x80 ≤ byte) && decide (byte ≤ 0x9F))) = true then
      byte &&& 0x7F else byte) = code
    split
    · exact Nat.le_refl _
    · split
      · exact Nat.le_succ _
      · cases Control.ofByte? code <;> exact between

/-- Every byte inside a sequence brings the reader nearer to its end. -/
theorem limit_feed_lt (wellFormed : r.phase.WellFormed) (busy : r.phase ≠ .idle) (byte : UInt8) :
    (r.feed byte).1.phase.limit < r.phase.limit := by
  unfold feed
  cases stands : r.phase with
  | idle => exact absurd stands busy
  | escape =>
    dsimp only
    split
    · exact Nat.lt_succ_self _
    · exact Nat.lt_succ_of_le (Nat.le_succ_of_le (limit_start_le _))
  | fileSeparator => exact Nat.lt_succ_of_le (limit_start_le _)
  | extended => exact Nat.lt_succ_of_le (limit_startExtended_le _)
  | channel => exact Nat.lt_succ_self 256
  | params c needed collected =>
    rw [stands] at wellFormed
    obtain ⟨missing, room⟩ := wellFormed
    have nearer : longestData + (maxParams - (collected.push byte).size) <
        longestData + (maxParams - collected.size) := by
      rw [Array.size_push]
      omega
    dsimp only
    split
    · exact nearer
    · exact Nat.lt_of_le_of_lt (limit_complete_le r c _) nearer
  | tabs axis stops last => exact limit_takeTab_lt axis stops last byte
  | image remaining columnBytes column =>
    rw [stands] at wellFormed
    exact limit_takeImage_lt wellFormed.2.2.1 byte
  | payload c remaining data =>
    rw [stands] at wellFormed
    dsimp only
    split
    · exact wellFormed.1
    · exact Nat.sub_lt wellFormed.1 Nat.one_pos
  | skip c remaining =>
    rw [stands] at wellFormed
    dsimp only
    split
    · exact wellFormed.1
    · exact Nat.sub_lt wellFormed.1 Nat.one_pos
  | defineRange range =>
    rw [stands] at wellFormed
    exact limit_takeRange_lt wellFormed byte
  | definePattern range characters header =>
    rw [stands] at wellFormed
    obtain ⟨-, ⟨counted, -⟩, short⟩ := wellFormed
    exact limit_takePattern_lt counted short byte
  | skipPattern range characters header remaining =>
    rw [stands] at wellFormed
    obtain ⟨-, -, -, more⟩ := wellFormed
    dsimp only
    split
    · exact Nat.lt_of_le_of_lt (limit_endPattern_le range characters) (Nat.lt_add_of_pos_right more)
    · exact Nat.add_lt_add_left (Nat.sub_lt more Nat.one_pos) _

theorem limit_answer_le (wellFormed : r.phase.WellFormed) (bound : r.phase.limit ≤ longestImage)
    {request : Request} (fits : request.Fits) : (r.answer request).phase.limit ≤ longestImage := by
  cases request with
  | feed byte =>
    by_cases idle : r.phase = .idle
    · have opened := limit_takeIdle_le idle byte
      have fed : r.feed byte = r.takeIdle byte := by simp only [feed, idle]
      change (r.feed byte).1.phase.limit ≤ longestImage
      rw [fed]
      exact Nat.le_trans opened (by decide)
    · exact Nat.le_trans (Nat.le_of_lt (limit_feed_lt wellFormed idle byte)) bound
  | reset => exact Nat.zero_le _
  | printLiterally count => exact bound
  | setUpperControl on => exact bound
  | beginImage columns columnBytes =>
    change (r.beginImage columns columnBytes).phase.limit ≤ longestImage
    simp only [beginImage]
    split
    · exact bound
    · exact Nat.mul_le_mul fits (Nat.max_le.mpr ⟨by decide, Nat.min_le_right ..⟩)

theorem limit_serve_le (wellFormed : r.phase.WellFormed) (bound : r.phase.limit ≤ longestImage)
    {requests : List Request} (fit : ∀ request ∈ requests, request.Fits) :
    (r.serve requests).phase.limit ≤ longestImage := by
  induction requests generalizing r with
  | nil => exact bound
  | cons request rest ih =>
    have first := fit request (List.mem_cons_self ..)
    exact ih (wellFormed_answer wellFormed request) (limit_answer_le wellFormed bound first)
      fun other member => fit other (List.mem_cons_of_mem _ member)

theorem wellFormed_feedAll (wellFormed : r.phase.WellFormed) (bytes : List UInt8) :
    (r.feedAll bytes).1.phase.WellFormed := by
  induction bytes generalizing r with
  | nil => exact wellFormed
  | cons byte rest ih => exact ih (wellFormed_feed wellFormed byte)

/-- The limit of a phase is kept: within so many bytes the sequence is over. -/
theorem exists_idle (wellFormed : r.phase.WellFormed) (stream : Stream' UInt8) :
    ∃ k ≤ r.phase.limit, (r.feedAll (stream.take k)).1.phase = .idle := by
  induction bound : r.phase.limit using Nat.strong_induction_on generalizing r stream with
  | _ limit ih =>
    subst bound
    by_cases idle : r.phase = .idle
    · exact ⟨0, Nat.zero_le _, idle⟩
    · have nearer := limit_feed_lt wellFormed idle stream.head
      obtain ⟨k, within, ends⟩ :=
        ih _ nearer (wellFormed_feed wellFormed stream.head) stream.tail rfl
      exact ⟨k + 1, Nat.lt_of_le_of_lt within nearer, ends⟩

/-- Whatever a reader has been asked to do, no stream of bytes keeps it inside a sequence for longer
than the widest bit image, and on the way each byte takes something from the limit of the phase. -/
theorem idle_within (requests : List Request) (fit : ∀ request ∈ requests, request.Fits)
    (stream : Stream' UInt8) :
    let reached (k : Nat) : Reader := ((({} : Reader).serve requests).feedAll (stream.take k)).1
    (∃ k ≤ 393210, (reached k).phase = .idle) ∧
      ∀ k, (reached k).phase ≠ .idle → (reached (k + 1)).phase.limit < (reached k).phase.limit := by
  intro reached
  have wellFormed : (({} : Reader).serve requests).phase.WellFormed :=
    wellFormed_serve (by trivial) requests
  constructor
  · obtain ⟨k, within, ends⟩ := exists_idle wellFormed stream
    have most := limit_serve_le (r := {}) (by trivial) (Nat.zero_le _) fit
    exact ⟨k, Nat.le_trans within most, ends⟩
  · intro k busy
    have further : reached (k + 1) = ((reached k).feed (stream.get k)).1 := by
      simp only [reached, Stream'.take_succ', feedAll_append]
      rfl
    rw [further]
    exact limit_feed_lt (wellFormed_feedAll wellFormed _) busy _

/-- The widest bit image, begun in the middle of a list of lines. -/
theorem idle_within_widest :
    let requests : List Request := [.feed 0x1B, .feed 0x42, .feed 0x05, .beginImage 65535 6]
    let r := ({} : Reader).serve requests
    (∀ request ∈ requests, request.Fits) ∧ r.phase.limit = 393210 ∧
      ∃ k ≤ 393210, (r.feedAll ((Stream'.const 0x1B).take k)).1.phase = .idle := by
  intro requests r
  have fit : ∀ request ∈ requests, request.Fits := by decide
  exact ⟨fit, by decide +kernel, (idle_within requests fit (Stream'.const 0x1B)).1⟩

end Reader

end PinPrinter
