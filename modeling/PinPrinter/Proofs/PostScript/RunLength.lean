import PinPrinter.PostScript.RunLength

/-! # Run lengths are read back

`decode?` reads records up to the end of the data, as an interpreter of page images does. It gives
the samples back that were encoded, and touches nothing behind the end.
-/

namespace PinPrinter.RunLength

/-- Read records up to the end of the data: the samples, and what stands behind the end. -/
def decode? : List UInt8 → Option (List UInt8 × List UInt8)
  | [] => none
  | length :: rest =>
    if length = endOfData then some ([], rest)
    else if length < endOfData then
      let count := length.toNat + 1
      if rest.length < count then none
      else (decode? (rest.drop count)).map fun (samples, left) => (rest.take count ++ samples, left)
    else
      match rest with
      | [] => none
      | sample :: rest =>
        (decode? rest).map fun (samples, left) =>
          (List.replicate (257 - length.toNat) sample ++ samples, left)
termination_by bytes => bytes.length
decreasing_by all_goals simp only [List.length_drop, List.length_cons]; omega

theorem runCount_le (value : UInt8) (limit : Nat) (samples : List UInt8) :
    runCount value limit samples ≤ limit := by
  induction limit generalizing samples with
  | zero => cases samples <;> simp [runCount]
  | succ limit ih =>
    cases samples with
    | nil => simp [runCount]
    | cons sample rest =>
      have later := ih rest
      unfold runCount
      split <;> omega

/-- What is counted as a run consists of copies of one sample. -/
theorem take_runCount (value : UInt8) (limit : Nat) (samples : List UInt8) :
    samples.take (runCount value limit samples) =
      List.replicate (runCount value limit samples) value := by
  induction limit generalizing samples with
  | zero => cases samples <;> simp [runCount]
  | succ limit ih =>
    cases samples with
    | nil => simp [runCount]
    | cons sample rest =>
      by_cases same : sample = value
      · simp only [runCount, same, if_true, List.take_succ_cons, List.replicate_succ, ih]
      · simp [runCount, same]

theorem plainCount_le (limit : Nat) (samples : List UInt8) :
    plainCount limit samples ≤ limit := by
  induction limit generalizing samples with
  | zero => cases samples <;> simp [plainCount]
  | succ limit ih =>
    cases samples with
    | nil => simp [plainCount]
    | cons sample rest =>
      have later := ih rest
      unfold plainCount
      split <;> omega

theorem plainCount_le_length (limit : Nat) (samples : List UInt8) :
    plainCount limit samples ≤ samples.length := by
  induction limit generalizing samples with
  | zero => cases samples <;> simp [plainCount]
  | succ limit ih =>
    cases samples with
    | nil => simp [plainCount]
    | cons sample rest =>
      have later := ih rest
      unfold plainCount
      simp only [List.length_cons]
      split <;> omega

/-- A record of a run is about three samples at least, so its length byte is above 128. -/
theorem two_le_runCount {first : UInt8} {rest : List UInt8}
    (starts : startsRun (first :: rest) = true) : 2 ≤ runCount first (maxRecord - 1) rest := by
  match rest, starts with
  | second :: third :: rest, starts =>
    simp only [startsRun, Bool.and_eq_true, beq_iff_eq] at starts
    obtain ⟨rfl, rfl⟩ := starts
    simp [runCount, maxRecord]

theorem decode?_run {count : Nat} (several : 2 ≤ count) (short : count ≤ maxRecord - 1)
    (sample : UInt8) (code : List UInt8) :
    decode? (UInt8.ofNat (257 - (count + 1)) :: sample :: code) =
      (decode? code).map fun (samples, left) =>
        (List.replicate (count + 1) sample ++ samples, left) := by
  simp only [maxRecord] at short
  have length : (UInt8.ofNat (257 - (count + 1))).toNat = 256 - count := by
    simp only [UInt8.toNat_ofNat']
    omega
  have above : ¬ UInt8.ofNat (257 - (count + 1)) < endOfData := by
    simp only [UInt8.lt_iff_toNat_lt, length, endOfData, UInt8.toNat_ofNat]
    omega
  have other : UInt8.ofNat (257 - (count + 1)) ≠ endOfData := by
    intro equal
    have same := congrArg UInt8.toNat equal
    simp only [length, endOfData, UInt8.toNat_ofNat] at same
    omega
  rw [decode?, if_neg other, if_neg above]
  simp only [length]
  have copies : 257 - (256 - count) = count + 1 := by omega
  rw [copies]

theorem decode?_plain {plain : List UInt8} {count : Nat} (length : plain.length = count + 1)
    (short : count ≤ maxRecord - 1) (code : List UInt8) :
    decode? (UInt8.ofNat count :: (plain ++ code)) =
      (decode? code).map fun (samples, left) => (plain ++ samples, left) := by
  simp only [maxRecord] at short
  have value : (UInt8.ofNat count).toNat = count := by
    simp only [UInt8.toNat_ofNat']
    omega
  have below : UInt8.ofNat count < endOfData := by
    simp only [UInt8.lt_iff_toNat_lt, value, endOfData, UInt8.toNat_ofNat]
    omega
  have other : UInt8.ofNat count ≠ endOfData := UInt8.ne_of_lt below
  have present : ¬ (plain ++ code).length < count + 1 := by
    simp only [List.length_append, length]
    omega
  rw [decode?.eq_def]
  simp only [if_neg other, if_pos below, value, if_neg present]
  rw [← length, List.drop_left, List.take_left]

theorem decode?_endOfData (left : List UInt8) : decode? (endOfData :: left) = some ([], left) := by
  rw [decode?.eq_def]
  simp only [if_true]

/-- What is appended for some samples is read back as them, whatever follows the end. -/
theorem exists_code (out : Array UInt8) (samples : List UInt8) :
    ∃ code, (encodeOnto out samples).toList = out.toList ++ code ∧
      ∀ left, decode? (code ++ endOfData :: left) = some (samples, left) := by
  fun_induction encodeOnto out samples with
  | case1 out =>
    refine ⟨[], by simp, ?_⟩
    intro left
    exact decode?_endOfData left
  | case2 out first rest starts count ih =>
    obtain ⟨code, written, read⟩ := ih
    refine ⟨UInt8.ofNat (257 - (count + 1)) :: first :: code, ?_, ?_⟩
    · simp only [written, Array.toList_push, List.append_assoc, List.cons_append, List.nil_append]
    · intro left
      have several : 2 ≤ count := two_le_runCount starts
      have short : count ≤ maxRecord - 1 := runCount_le ..
      have run : List.replicate count first ++ rest.drop count = rest := by
        rw [← take_runCount, List.take_append_drop]
      rw [List.cons_append, List.cons_append, decode?_run several short, read, Option.map_some]
      dsimp only
      rw [List.replicate_succ, List.cons_append, run]
  | case3 out first rest starts count ih =>
    obtain ⟨code, written, read⟩ := ih
    refine ⟨UInt8.ofNat count :: ((first :: rest.take count) ++ code), ?_, ?_⟩
    · simp only [written, Array.toList_appendList, Array.toList_push, List.append_assoc,
        List.cons_append, List.nil_append]
    · intro left
      have present : count ≤ rest.length := plainCount_le_length ..
      have length : (first :: rest.take count).length = count + 1 := by
        simp only [List.length_cons, List.length_take]
        omega
      rw [List.cons_append, List.append_assoc, decode?_plain length (plainCount_le ..), read,
        Option.map_some]
      dsimp only
      rw [List.cons_append, List.take_append_drop]

/-- Encoded samples are read back, with nothing left of their code. -/
theorem decode?_encode (samples : List UInt8) :
    decode? (encode samples).toList = some (samples, []) := by
  obtain ⟨code, written, read⟩ := exists_code #[] samples
  rw [encode, Array.toList_push, written]
  exact read []

end PinPrinter.RunLength
