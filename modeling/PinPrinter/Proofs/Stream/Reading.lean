import PinPrinter.Stream.Reader

/-! # Reading whole layouts

The reader is defined byte by byte. Here its answer to a block of bytes is followed through one
layout at a time: parameters, counted data, literal bytes, and a list of tab stops. Blocks compose,
so the answer to a stream is put together from the answers to its parts.
-/

namespace PinPrinter.Reader

variable (upper : Bool)

theorem feedAll_append (r : Reader) (first second : List UInt8) :
    r.feedAll (first ++ second) =
      (((r.feedAll first).1.feedAll second).1,
        (r.feedAll first).2 ++ ((r.feedAll first).1.feedAll second).2) := by
  induction first generalizing r with
  | nil => rfl
  | cons byte rest ih =>
    simp only [List.cons_append, feedAll, ih, List.append_assoc]

/-- A block is read in two parts, the second from where the first one leaves the reader. -/
theorem feedAll_append_of {r middle final : Reader} {first second : List UInt8}
    {before after : List Action} (head : r.feedAll first = (middle, before))
    (tail : middle.feedAll second = (final, after)) :
    r.feedAll (first ++ second) = (final, before ++ after) := by
  rw [feedAll_append, head, tail]

theorem feedAll_cons_of {r next final : Reader} {byte : UInt8} {rest : List UInt8}
    {action : Option Action} {actions : List Action} (head : r.feed byte = (next, action))
    (tail : next.feedAll rest = (final, actions)) :
    r.feedAll (byte :: rest) = (final, action.toList ++ actions) := by
  simp only [feedAll, head, tail]

/-- A byte that only moves the reader on is read in front of the others. -/
theorem feedAll_cons_silent {r next final : Reader} {byte : UInt8} {rest : List UInt8}
    {actions : List Action} (head : r.feed byte = (next, none))
    (tail : next.feedAll rest = (final, actions)) :
    r.feedAll (byte :: rest) = (final, actions) :=
  feedAll_cons_of head tail

theorem feedAll_params (c : Command) (collected : Array UInt8) {bytes : List UInt8}
    (nonempty : bytes ≠ []) :
    ({ phase := .params c (collected.size + bytes.length) collected
       upperControl := upper } : Reader).feedAll bytes =
      ((({ upperControl := upper } : Reader).complete c (collected ++ bytes.toArray)).1,
        (({ upperControl := upper } : Reader).complete c
          (collected ++ bytes.toArray)).2.toList) := by
  induction bytes generalizing collected with
  | nil => exact absurd rfl nonempty
  | cons byte rest ih =>
    have grown : collected.push byte ++ rest.toArray = collected ++ (byte :: rest).toArray := by
      simp
    cases rest with
    | nil =>
      simp only [feedAll, feed, Array.size_push, List.length_cons, List.length_nil, Nat.zero_add,
        Nat.lt_irrefl, if_false, List.append_nil]
      rw [← grown, Array.append_empty]
      rfl
    | cons next rest =>
      have size : (collected.push byte).size + (next :: rest).length =
          collected.size + (byte :: next :: rest).length := by
        simp only [Array.size_push, List.length_cons]
        omega
      have step := ih (collected.push byte) (by simp)
      rw [size, grown] at step
      refine feedAll_cons_silent ?_ step
      simp [feed]

theorem feedAll_payload (c : Command) (data : Array UInt8) {bytes : List UInt8}
    (nonempty : bytes ≠ []) :
    ({ phase := .payload c bytes.length data, upperControl := upper } : Reader).feedAll bytes =
      ({ upperControl := upper }, [.payload c (data ++ bytes.toArray)]) := by
  induction bytes generalizing data with
  | nil => exact absurd rfl nonempty
  | cons byte rest ih =>
    have grown : data.push byte ++ rest.toArray = data ++ (byte :: rest).toArray := by simp
    cases rest with
    | nil =>
      rw [← grown, Array.append_empty]
      rfl
    | cons next rest =>
      have step := ih (data.push byte) (by simp)
      rw [grown] at step
      exact feedAll_cons_silent (by simp [feed]) step

/-- Literal bytes are printed whatever their values. -/
theorem feedAll_literal (bytes : List UInt8) :
    ({ literal := bytes.length, upperControl := upper } : Reader).feedAll bytes =
      ({ upperControl := upper }, bytes.map .print) := by
  induction bytes with
  | nil => rfl
  | cons byte rest ih =>
    have printed :
        ({ literal := (byte :: rest).length, upperControl := upper } : Reader).feed byte =
          ({ literal := rest.length, upperControl := upper }, some (.print byte)) := by
      simp [feed, takeIdle]
    exact feedAll_cons_of printed ih

/-! ## Lists of tab stops -/

/-- Where the reader stands behind the numbers of a list of tab stops. Those without room are
dropped, but what follows is still compared with the latest of them. -/
def listing (axis : TabAxis) (numbers : List UInt8) : Phase :=
  .tabs axis (numbers.take axis.capacity).toArray (numbers.getLastD 0)

theorem take_push (room : Nat) (numbers : List UInt8) (byte : UInt8) :
    (if (numbers.take room).length < room then (numbers.take room).toArray.push byte
      else (numbers.take room).toArray) = ((numbers ++ [byte]).take room).toArray := by
  rw [List.length_take, List.take_append]
  split
  case isTrue short =>
    have more : numbers.length < room := by omega
    have all : [byte].take (room - numbers.length) = [byte] :=
      List.take_of_length_le (Nat.sub_pos_of_lt more)
    rw [all, List.push_toArray]
  case isFalse full =>
    have none : room - numbers.length = 0 := by omega
    rw [none, List.take_zero, List.append_nil]

/-- A byte above the latest number goes on with the list, any other one ends it. -/
theorem feed_listing (axis : TabAxis) (numbers : List UInt8) (byte : UInt8) :
    ({ phase := listing axis numbers, upperControl := upper } : Reader).feed byte =
      if byte ≤ numbers.getLastD 0 then
        ({ upperControl := upper }, some (.tabs axis (numbers.take axis.capacity).toArray))
      else ({ phase := listing axis (numbers ++ [byte]), upperControl := upper }, none) := by
  have ends : (byte = 0 ∨ ((numbers.take axis.capacity).toArray.isEmpty = false ∧
      byte ≤ numbers.getLastD 0)) ↔ byte ≤ numbers.getLastD 0 := by
    constructor
    · rintro (rfl | ⟨-, below⟩)
      · exact UInt8.zero_le
      · exact below
    · intro below
      cases numbers with
      | nil => exact .inl (UInt8.le_zero_iff.mp below)
      | cons first rest => exact .inr ⟨by cases axis <;> rfl, below⟩
  simp only [feed, listing, takeTab, ends, List.size_toArray, take_push]
  split
  · rfl
  · rw [List.getLastD_concat]

/-- Numbers that ascend from the latest one on are read without an action. -/
theorem feedAll_listing (axis : TabAxis) (numbers : List UInt8) {more : List UInt8}
    (ascending : (numbers.getLastD 0 :: more).Pairwise (· < ·)) :
    ({ phase := listing axis numbers, upperControl := upper } : Reader).feedAll more =
      ({ phase := listing axis (numbers ++ more), upperControl := upper }, []) := by
  induction more generalizing numbers with
  | nil => rw [List.append_nil, feedAll]
  | cons byte rest ih =>
    obtain ⟨above, later⟩ := List.pairwise_cons.mp ascending
    have goes := feed_listing upper axis numbers byte
    rw [if_neg (UInt8.not_le.mpr (above byte (List.mem_cons_self ..)))] at goes
    have step := ih (numbers ++ [byte]) (by rwa [List.getLastD_concat])
    rw [List.append_assoc, List.singleton_append] at step
    exact feedAll_cons_silent goes step

/-- Numbers that ascend from above zero are a list, up to a byte that does not ascend. The first of
them that have room are its stops. -/
theorem feedAll_list (axis : TabAxis) {numbers : List UInt8} {byte : UInt8}
    (ascending : (0 :: numbers).Pairwise (· < ·)) (ends : byte ≤ numbers.getLastD 0) :
    ({ phase := listing axis [], upperControl := upper } : Reader).feedAll (numbers ++ [byte]) =
      ({ upperControl := upper }, [.tabs axis (numbers.take axis.capacity).toArray]) := by
  have closed := feed_listing upper axis numbers byte
  rw [if_pos ends] at closed
  exact feedAll_append_of (feedAll_listing upper axis [] ascending) (feedAll_cons_of closed rfl)

end PinPrinter.Reader
