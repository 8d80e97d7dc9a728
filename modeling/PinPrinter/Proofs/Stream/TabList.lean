import PinPrinter.Proofs.Stream.Token

/-! # Lists of tab stops in a byte stream

Nothing in front of a list of tab stops says how long it is. The list reaches as far as the bytes
ascend from above zero, and it cannot go on for ever, since no byte is above FFh. The byte that ends
it is compared with the one before it, also where that one had no room, and it belongs to the list:
what is read next stands behind it.
-/

namespace PinPrinter

/-- The longest front part of some bytes that ascends from above a byte. -/
def ascent (last : UInt8) : List UInt8 → List UInt8
  | [] => []
  | byte :: rest => if last < byte then byte :: ascent byte rest else []

theorem pairwise_cons_cons {last byte : UInt8} {rest : List UInt8} :
    (last :: byte :: rest).Pairwise (· < ·) ↔ last < byte ∧ (byte :: rest).Pairwise (· < ·) := by
  constructor
  · intro ascending
    obtain ⟨above, later⟩ := List.pairwise_cons.mp ascending
    exact ⟨above byte (List.mem_cons_self ..), later⟩
  · rintro ⟨above, later⟩
    apply List.pairwise_cons.mpr
    refine ⟨?_, later⟩
    rintro other (_ | ⟨_, member⟩)
    · exact above
    · exact UInt8.lt_trans above ((List.pairwise_cons.mp later).1 other member)

/-- Front parts that ascend are front parts of the longest one. -/
theorem prefix_ascent_iff {last : UInt8} {bytes front : List UInt8} :
    front <+: ascent last bytes ↔ front <+: bytes ∧ (last :: front).Pairwise (· < ·) := by
  induction bytes generalizing last front with
  | nil =>
    rw [ascent, List.prefix_nil]
    constructor
    · rintro rfl
      exact ⟨rfl, List.pairwise_singleton _ _⟩
    · exact fun both => both.1
  | cons byte rest ih =>
    cases front with
    | nil =>
      exact ⟨fun _ => ⟨List.nil_prefix, List.pairwise_singleton _ _⟩, fun _ => List.nil_prefix⟩
    | cons first others =>
      rw [ascent, pairwise_cons_cons, List.cons_prefix_cons]
      by_cases above : last < byte
      · rw [if_pos above, List.cons_prefix_cons, ih]
        constructor
        · rintro ⟨rfl, shorter, later⟩
          exact ⟨⟨rfl, shorter⟩, above, later⟩
        · rintro ⟨⟨rfl, shorter⟩, -, later⟩
          exact ⟨rfl, shorter, later⟩
      · rw [if_neg above, List.prefix_nil]
        constructor
        · exact nofun
        · rintro ⟨⟨rfl, -⟩, higher, -⟩
          exact absurd higher above

theorem pairwise_ascent (last : UInt8) (bytes : List UInt8) :
    (last :: ascent last bytes).Pairwise (· < ·) :=
  (prefix_ascent_iff.mp (List.prefix_refl (ascent last bytes))).2

/-- The byte behind an ascent is not above the latest one. -/
theorem le_of_eq_ascent_append {last byte : UInt8} {bytes rest : List UInt8}
    (cut : bytes = ascent last bytes ++ byte :: rest) :
    byte ≤ (ascent last bytes).getLastD last := by
  induction bytes generalizing last with
  | nil => simp [ascent] at cut
  | cons first others ih =>
    by_cases above : last < first
    · rw [ascent, if_pos above] at cut ⊢
      rw [List.getLastD_cons]
      exact ih (List.tail_eq_of_cons_eq cut)
    · rw [ascent, if_neg above] at cut ⊢
      rw [← List.head_eq_of_cons_eq cut]
      exact UInt8.not_lt.mp above

/-- Bytes that ascend take at least one step each. -/
theorem length_add_le {last : UInt8} {numbers : List UInt8}
    (ascending : (last :: numbers).Pairwise (· < ·)) : last.toNat + numbers.length ≤ 255 := by
  induction numbers generalizing last with
  | nil => exact Nat.le_of_lt_succ last.toNat_lt
  | cons byte rest ih =>
    obtain ⟨above, later⟩ := pairwise_cons_cons.mp ascending
    have step := UInt8.lt_iff_toNat_lt.mp above
    have behind := ih later
    rw [List.length_cons]
    omega

theorem length_ascent_le (bytes : List UInt8) : (ascent 0 bytes).length ≤ 255 := by
  have bound := length_add_le (pairwise_ascent 0 bytes)
  rwa [UInt8.toNat_zero, Nat.zero_add] at bound

/-- Among so many bytes there is one that ends the list. -/
theorem exists_end {bytes : List UInt8} (long : 256 ≤ bytes.length) :
    ∃ byte rest, bytes = ascent 0 bytes ++ byte :: rest := by
  obtain ⟨behind, parts⟩ := (prefix_ascent_iff.mp (List.prefix_refl (ascent 0 bytes))).1
  cases behind with
  | nil =>
    have short := length_ascent_le bytes
    rw [List.append_nil] at parts
    rw [parts] at short
    omega
  | cons byte rest => exact ⟨byte, rest, parts.symm⟩

/-- What announces a list of tab stops. -/
inductive TabAnnouncement where
  /-- The command for columns or the one for lines. -/
  | plain (axis : TabAxis)
  /-- The command for lines of a channel. -/
  | channel (number : UInt8)
  deriving DecidableEq, Repr

namespace TabAnnouncement

/-- The direction of the stops that are announced. -/
def axis : TabAnnouncement → TabAxis
  | plain axis => axis
  | channel _ => .vertical

/-- The bytes in front of the list. -/
def bytes : TabAnnouncement → List UInt8
  | plain axis => (Token.tabCommand axis).bytes
  | channel number => Token.channelCommand.bytes ++ [number]

end TabAnnouncement

namespace Reader

variable (upper : Bool)

theorem feedAll_announcement (announcement : TabAnnouncement) :
    ({ upperControl := upper } : Reader).feedAll announcement.bytes =
      ({ phase := listing announcement.axis [], upperControl := upper }, []) := by
  cases announcement with
  | plain axis => exact feedAll_tabCommand upper axis
  | channel number => exact feedAll_channelCommand upper number

/-- Up to the end of the ascent nothing has happened. -/
theorem feedAll_ascent (announcement : TabAnnouncement) (bytes : List UInt8) :
    ({ upperControl := upper } : Reader).feedAll (announcement.bytes ++ ascent 0 bytes) =
      ({ phase := listing announcement.axis (ascent 0 bytes), upperControl := upper }, []) :=
  feedAll_append_of (feedAll_announcement upper announcement)
    (feedAll_listing upper announcement.axis [] (pairwise_ascent 0 bytes))

/-- Bytes that are read without an action are so part by part. -/
theorem feedAll_prefix_silent {r final : Reader} {front bytes : List UInt8}
    (shorter : front <+: bytes) (silent : r.feedAll bytes = (final, [])) :
    (r.feedAll front).2 = [] := by
  obtain ⟨rest, rfl⟩ := shorter
  rw [feedAll_append] at silent
  exact (List.append_eq_nil_iff.mp (congrArg Prod.snd silent)).1

end Reader

end PinPrinter
