import Mathlib.Data.List.Basic
import Mathlib.Data.Nat.Nth
import Mathlib.Data.Set.Finite.List
import PinPrinter.Folder

/-! # Numbered names

The numbers whose names are not taken in a directory go on for ever, so there is a first one, a
second one and so on. New files get these, in this order: each search for a free name finds the
next, as long as the directory has room for the names.
-/

namespace PinPrinter.Folder

variable {front ext : String}

theorem numbered_injective (front ext : String) : Function.Injective (numbered front ext) := by
  intro i j same
  have texts := congrArg String.toList same
  simp only [numbered, String.toList_append] at texts
  have digits : Nat.toDigits 10 i = Nat.toDigits 10 j := by
    have middle := List.append_cancel_left (List.append_cancel_right texts)
    simpa only [Nat.toString_eq_ofList_toDigits, String.toList_ofList] using middle
  calc
    i = Nat.ofDigitChars 10 (Nat.toDigits 10 i) 0 := Nat.ofDigitChars_ten_toDigits.symm
    _ = Nat.ofDigitChars 10 (Nat.toDigits 10 j) 0 := by rw [digits]
    _ = j := Nat.ofDigitChars_ten_toDigits

/-- The names that are taken. -/
def names (f : Folder) : List String :=
  f.files.map Prod.fst

/-- A number whose name is not taken. -/
def Free (f : Folder) (front ext : String) (n : Nat) : Prop :=
  0 < n ∧ numbered front ext n ∉ f.names

instance (f : Folder) (front ext : String) : DecidablePred (f.Free front ext) :=
  fun n => inferInstanceAs (Decidable (0 < n ∧ numbered front ext n ∉ f.names))

/-- The name with the free number that has so many free numbers before it. -/
noncomputable def freeName (f : Folder) (front ext : String) (k : Nat) : String :=
  numbered front ext (Nat.nth (f.Free front ext) k)

/-- The directory once contents have gone to new files, in their order, each under the first name
that was free. -/
noncomputable def filed (f : Folder) (front ext : String) (contents : List Content) : Folder :=
  { f with files := f.files ++ contents.mapIdx fun k content => (f.freeName front ext k, content) }

/-- So many new files can be made in the directory, which has room for their names. -/
structure Accepts (f : Folder) (front ext : String) (count : Nat) : Prop where
  writable : f.writable = true
  room : ∀ n, n ≤ f.files.length + count → f.fits (numbered front ext n) = true

/-! ## The free numbers -/

theorem infinite_free (f : Folder) (front ext : String) :
    (Set.ofPred (f.Free front ext)).Infinite := by
  have taken : (Set.ofPred fun n => numbered front ext n ∈ f.names).Finite :=
    (List.finite_toSet f.names).preimage (numbered_injective front ext).injOn
  have positive : (Set.ofPred fun n : Nat => 0 < n).Infinite := by
    exact Set.infinite_of_injective_forall_mem Nat.succ_injective Nat.succ_pos
  apply (positive.sdiff taken).mono
  rintro n ⟨above, free⟩
  exact ⟨above, free⟩

theorem free_nth (f : Folder) (front ext : String) (k : Nat) :
    f.Free front ext (Nat.nth (f.Free front ext) k) :=
  Nat.nth_mem_of_infinite (f.infinite_free front ext) k

theorem freeName_not_mem (f : Folder) (front ext : String) (k : Nat) :
    f.freeName front ext k ∉ f.names :=
  (f.free_nth front ext k).2

theorem freeName_injective (f : Folder) (front ext : String) :
    Function.Injective (f.freeName front ext) :=
  (numbered_injective front ext).comp (Nat.nth_injective (f.infinite_free front ext))

/-- The name of a free number goes to the file before which there are as many as free numbers before
it. -/
theorem freeName_of_count {f : Folder} {n k : Nat} (free : f.Free front ext n)
    (before : Nat.count (f.Free front ext) n = k) :
    f.freeName front ext k = numbered front ext n := by
  rw [freeName, ← before, Nat.nth_count free]

theorem accepts_of_room {f : Folder} (writable : f.writable = true) (room : f.room = none)
    (front ext : String) (count : Nat) : f.Accepts front ext count := by
  refine ⟨writable, ?_⟩
  intro n _
  rw [fits, room]
  rfl

/-- Of as many numbers as there are files and one more, one is free. -/
theorem exists_free (f : Folder) (front ext : String) :
    ∃ n ≤ f.files.length + 1, f.Free front ext n := by
  let numbers := List.range' 1 (f.files.length + 1)
  by_contra none
  have within : numbers.map (numbered front ext) ⊆ f.names := by
    intro name member
    obtain ⟨n, inRange, rfl⟩ := List.mem_map.mp member
    by_contra free
    have bounds := List.mem_range'_1.mp inRange
    exact none ⟨n, by omega, by omega, free⟩
  have distinct : (numbers.map (numbered front ext)).Nodup :=
    List.Nodup.map (numbered_injective front ext) List.nodup_range'
  have few := distinct.length_le_of_subset within
  rw [List.length_map, List.length_range', names, List.length_map] at few
  omega

/-! ## New files -/

variable {f : Folder} {contents : List Content} {count : Nat}

theorem length_files_filed (f : Folder) (front ext : String) (contents : List Content) :
    (f.filed front ext contents).files.length = f.files.length + contents.length := by
  rw [filed, List.length_append, List.length_mapIdx]

theorem mem_names_filed {name : String} :
    name ∈ (f.filed front ext contents).names ↔
      name ∈ f.names ∨ ∃ k < contents.length, f.freeName front ext k = name := by
  simp only [names, filed, List.map_append, List.mem_append, List.mem_map, List.mem_mapIdx]
  apply or_congr_right
  constructor
  · rintro ⟨file, ⟨k, less, rfl⟩, rfl⟩
    exact ⟨k, less, rfl⟩
  · rintro ⟨k, less, rfl⟩
    exact ⟨_, ⟨k, less, rfl⟩, rfl⟩

/-- So far the search for a free number has to go at most. -/
theorem nth_free_le (f : Folder) (front ext : String) (k : Nat) :
    Nat.nth (f.Free front ext) k ≤ f.files.length + k + 1 := by
  -- Once k files have the first numbers, a number that is free is not one of these.
  obtain ⟨n, bound, above, free⟩ :=
    exists_free (f.filed front ext (List.replicate k (.bytes .empty))) front ext
  rw [length_files_filed, List.length_replicate] at bound
  rw [mem_names_filed, List.length_replicate] at free
  have old : f.Free front ext n := ⟨above, fun taken => free (.inl taken)⟩
  obtain ⟨i, -, rfl⟩ := Nat.exists_lt_card_nth_eq old
  have later : k ≤ i := by
    by_contra less
    exact free (.inr ⟨i, Nat.lt_of_not_le less, rfl⟩)
  exact (Nat.nth_monotone (f.infinite_free front ext) later).trans bound

theorem Accepts.fits (accepts : f.Accepts front ext count) {k : Nat} (less : k < count) :
    f.fits (f.freeName front ext k) = true := by
  apply accepts.room
  have bound := f.nth_free_le front ext k
  omega

/-- Where there is room for a name, it is taken if a file has it. -/
theorem has_eq_true_iff {name : String} (fits : f.fits name = true) :
    f.has name = true ↔ name ∈ f.names := by
  simp [has, fits, names]

/-- The search for a free number finds the one behind those that new files have got. -/
theorem nextNumber_filed (accepts : f.Accepts front ext count) (less : contents.length < count) :
    (f.filed front ext contents).nextNumber front ext =
      Nat.nth (f.Free front ext) contents.length := by
  let m := Nat.nth (f.Free front ext) contents.length
  let g := f.filed front ext contents
  have bound : m ≤ f.files.length + contents.length + 1 := f.nth_free_le front ext _
  have above : 0 < m := (f.free_nth front ext _).1
  have taken {j : Nat} (before : j ≤ m) :
      g.has (numbered front ext j) = true ↔ numbered front ext j ∈ g.names := by
    apply has_eq_true_iff
    exact accepts.room j (by omega)
  have search : (List.range' 1 (g.files.length + 1)).find? (fun n =>
      !g.has (numbered front ext n)) = some m := by
    rw [length_files_filed, List.find?_range'_eq_some]
    refine ⟨?_, ?_, ?_⟩
    · rw [Bool.not_eq_true', Bool.eq_false_iff]
      intro has
      rcases mem_names_filed.mp ((taken (Nat.le_refl m)).mp has) with old | ⟨k, earlier, same⟩
      · exact f.freeName_not_mem front ext _ old
      · have equal := f.freeName_injective front ext same
        omega
    · rw [List.mem_range'_1]
      omega
    · intro j positive before
      rw [Bool.not_not, taken (Nat.le_of_lt before), mem_names_filed]
      by_cases old : numbered front ext j ∈ f.names
      · exact .inl old
      · obtain ⟨i, -, rfl⟩ := Nat.exists_lt_card_nth_eq (p := f.Free front ext) ⟨positive, old⟩
        exact .inr ⟨i, (Nat.nth_lt_nth (f.infinite_free front ext)).mp before, rfl⟩
  rw [nextNumber, search]
  rfl

theorem nextName_filed (accepts : f.Accepts front ext count) (less : contents.length < count) :
    (f.filed front ext contents).nextName front ext = f.freeName front ext contents.length := by
  rw [nextName, nextNumber_filed accepts less]
  rfl

theorem filed_nil (f : Folder) (front ext : String) : f.filed front ext [] = f := by
  rw [filed, List.mapIdx_nil, List.append_nil]

theorem filed_concat (f : Folder) (front ext : String) (contents : List Content)
    (content : Content) :
    f.filed front ext (contents ++ [content]) =
      { f.filed front ext contents with
        files := (f.filed front ext contents).files ++
          [(f.freeName front ext contents.length, content)] } := by
  simp [filed, List.mapIdx_append]

theorem freeName_not_mem_filed (f : Folder) (front ext : String) (contents : List Content) :
    f.freeName front ext contents.length ∉ (f.filed front ext contents).names := by
  rw [mem_names_filed]
  rintro (old | ⟨k, less, same⟩)
  · exact f.freeName_not_mem front ext _ old
  · have equal := f.freeName_injective front ext same
    omega

theorem put_of_not_mem {name : String} (fits : f.fits name = true) (free : name ∉ f.names)
    (content : Content) :
    f.put name content = { f with files := f.files ++ [(name, content)] } := by
  rw [put, if_neg]
  rwa [has_eq_true_iff fits]

theorem create_filed (accepts : f.Accepts front ext count) (less : contents.length < count) :
    (f.filed front ext contents).create (f.freeName front ext contents.length) =
      .ok (f.filed front ext (contents ++ [.bytes .empty])) := by
  have fits : (f.filed front ext contents).fits (f.freeName front ext contents.length) = true :=
    accepts.fits less
  have usable : (f.filed front ext contents).writable = true := accepts.writable
  rw [create, fits, usable, put_of_not_mem fits (f.freeName_not_mem_filed front ext contents),
    filed_concat]
  rfl

/-- What is put under the name of the latest new file takes the place of what it had. -/
theorem put_filed (accepts : f.Accepts front ext count) (less : contents.length < count)
    (old new : Content) :
    (f.filed front ext (contents ++ [old])).put (f.freeName front ext contents.length) new =
      f.filed front ext (contents ++ [new]) := by
  let name := f.freeName front ext contents.length
  have fits : (f.filed front ext (contents ++ [old])).fits name = true := accepts.fits less
  have taken : name ∈ (f.filed front ext (contents ++ [old])).names := by
    apply mem_names_filed.mpr
    exact .inr ⟨contents.length, by simp, rfl⟩
  have others : (f.filed front ext contents).files.map
      (fun file => if file.1 = name then (name, new) else file) =
        (f.filed front ext contents).files := by
    conv_rhs => rw [← List.map_id (f.filed front ext contents).files]
    apply List.map_congr_left
    intro file member
    apply if_neg
    rintro same
    apply f.freeName_not_mem_filed front ext contents
    rw [names, List.mem_map]
    exact ⟨file, member, same⟩
  rw [put, if_pos ((has_eq_true_iff fits).mpr taken), filed_concat, filed_concat,
    List.map_append, others]
  simp

end PinPrinter.Folder
