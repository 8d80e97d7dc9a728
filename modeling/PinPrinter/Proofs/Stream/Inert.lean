import PinPrinter.Instruction
import PinPrinter.Proofs.Stream.Token

/-! # Sequences without effect

Commands that are not understood, patterns of user-defined characters, and commands that a printer
on paper has no use for are read to their end and change nothing. How long they are is told in
three ways: by the table, by a count of two bytes, and by a count inside of each pattern. The bytes
that are passed over can have any values.
-/

namespace PinPrinter

/-- The commands that are understood and have no effect, whatever their parameters. -/
def Command.withoutEffect : List Command :=
  (['\x02', '/', '8', '9', '<', 'U', 'a', 'h', 'i', 's', 'I', '[', '~', '%', ':'].map
    fun opcode => ⟨.esc, opcode.toUInt8⟩) ++
  (['E', 'S', 'R'].map fun opcode => ⟨.fs, opcode.toUInt8⟩)

/-- The command that defines characters. -/
def Command.defineCharacters : Command :=
  ⟨.esc, '&'.toUInt8⟩

theorem Command.simple_of_withoutEffect {c : Command} (listed : c ∈ withoutEffect) :
    (c.introducer = .esc → c.opcode ≠ extension) ∧ c ≠ pageLength := by
  revert c
  decide +kernel

theorem Instruction.ofCommand_of_withoutEffect {c : Command} (listed : c ∈ Command.withoutEffect)
    (params : Array UInt8) : ofCommand c params = .nothing := by
  revert c
  simp only [Command.withoutEffect, List.map, List.cons_append, List.nil_append,
    List.forall_mem_cons]
  exact ⟨rfl, rfl, rfl, rfl, rfl, rfl, rfl, rfl, rfl, rfl, rfl, rfl, rfl, rfl, rfl, rfl, rfl, rfl,
    nofun⟩

/-- The pattern of a user-defined character: three bytes, the second of which counts the columns of
three bytes each that follow. -/
structure Pattern where
  left : UInt8
  columns : UInt8
  right : UInt8
  data : List UInt8
  length_data : data.length = columns.toNat * 3

def Pattern.bytes (p : Pattern) : List UInt8 :=
  p.left :: p.columns :: p.right :: p.data

/-- The number of characters from the first one of a range to the last one. -/
def rangeSize (first last : UInt8) : Nat :=
  if first ≤ last then last.toNat - first.toNat + 1 else 0

/-- The byte sequences without effect. -/
inductive Inert : List UInt8 → Prop
  /-- A command in no line of the table. -/
  | unknown (c : Command) (simple : c.introducer ≠ .extended)
      (plain : c.introducer = .esc → c.opcode ≠ Command.extension) (unlisted : c.row? = none) :
      Inert c.bytes
  /-- An extended command in no line of the table still counts its data. -/
  | skipped (c : Command) (data : List UInt8) (extended : c.introducer = .extended)
      (unlisted : c.row? = none) (short : data.length < 65536) :
      Inert (c.bytes ++ (Bytes.littleEndian 2 data.length ++ data))
  /-- Patterns for a range of characters. -/
  | characters (mode first last : UInt8) (patterns : List Pattern)
      (count : patterns.length = rangeSize first last) :
      Inert (Command.defineCharacters.bytes ++
        (mode :: first :: last :: patterns.flatMap Pattern.bytes))
  /-- A command without effect and its parameters. -/
  | ignored (c : Command) (params : List UInt8) (listed : c ∈ Command.withoutEffect)
      (layout : c.layout? = some (.fixed params.length)) : Inert (c.bytes ++ params)

/-- An action that changes nothing. -/
def Action.WithoutEffect (action : Action) : Prop :=
  ∃ c params, action = .command c params ∧ Instruction.ofCommand c params = .nothing

namespace Reader

variable (upper : Bool)

/-! ## Bytes that are passed over -/

theorem feedAll_skip (c : Command) {data : List UInt8} (nonempty : data ≠ []) :
    ({ phase := .skip c data.length, upperControl := upper } : Reader).feedAll data =
      ({ upperControl := upper }, []) := by
  induction data with
  | nil => exact absurd rfl nonempty
  | cons byte rest ih =>
    cases rest with
    | nil => rfl
    | cons next rest => exact feedAll_cons_silent (by simp [feed]) (ih (by simp))

theorem feedAll_skipPattern (range : Array UInt8) (characters : Nat) (header : Array UInt8)
    {data : List UInt8} (nonempty : data ≠ []) :
    ({ phase := .skipPattern range characters header data.length
       upperControl := upper } : Reader).feedAll data =
      ({ phase := endPattern range characters, upperControl := upper }, []) := by
  induction data with
  | nil => exact absurd rfl nonempty
  | cons byte rest ih =>
    cases rest with
    | nil => rfl
    | cons next rest => exact feedAll_cons_silent (by simp [feed]) (ih (by simp))

/-- A pattern is read to its end, also one without columns. -/
theorem feedAll_pattern (range : Array UInt8) (characters : Nat) (pattern : Pattern) :
    ({ phase := .definePattern range characters #[], upperControl := upper } : Reader).feedAll
        pattern.bytes =
      ({ phase := endPattern range characters, upperControl := upper }, []) := by
  obtain ⟨left, columns, right, data, length⟩ := pattern
  have opened : ({ phase := .definePattern range characters #[]
                   upperControl := upper } : Reader).feedAll [left, columns, right] =
      ({ phase := if columns.toNat * 3 = 0 then endPattern range characters
          else .skipPattern range characters #[left, columns, right] (columns.toNat * 3)
         upperControl := upper }, []) := rfl
  rw [← length] at opened
  by_cases empty : data = []
  · subst empty
    exact opened
  · rw [if_neg (by simpa using empty)] at opened
    exact feedAll_append_of opened (feedAll_skipPattern upper range characters _ empty)

/-- After its header, a definition has as many patterns as there are characters in the range. -/
theorem feedAll_patterns (range : Array UInt8) {patterns : List Pattern}
    (nonempty : patterns ≠ []) :
    ({ phase := .definePattern range patterns.length #[], upperControl := upper } : Reader).feedAll
        (patterns.flatMap Pattern.bytes) =
      ({ upperControl := upper }, []) := by
  induction patterns with
  | nil => exact absurd rfl nonempty
  | cons pattern rest ih =>
    have head := feedAll_pattern upper range (pattern :: rest).length pattern
    cases rest with
    | nil => simpa [endPattern] using head
    | cons next rest => exact feedAll_append_of head (ih (by simp))

/-! ## Whole sequences -/

theorem feedAll_unknown {c : Command} (simple : c.introducer ≠ .extended)
    (plain : c.introducer = .esc → c.opcode ≠ Command.extension) (unlisted : c.row? = none) :
    ({ upperControl := upper } : Reader).feedAll c.bytes = ({ upperControl := upper }, []) := by
  have layout : c.layout? = none := by rw [Command.layout?, unlisted]; rfl
  have closed : opening c = (.idle, none) := by
    simp only [opening, if_neg simple, start, layout]
  rw [feedAll_opening upper plain, closed]
  rfl

theorem feedAll_skipped {c : Command} {data : List UInt8} (extended : c.introducer = .extended)
    (unlisted : c.row? = none) (short : data.length < 65536) :
    ({ upperControl := upper } : Reader).feedAll
        (c.bytes ++ (Bytes.littleEndian 2 data.length ++ data)) =
      ({ upperControl := upper }, []) := by
  have layout : c.layout? = none := by rw [Command.layout?, unlisted]; rfl
  have opened := feedAll_opening upper (c := c) (by simp [extended])
  have waiting : opening c = (.params c 2 #[], none) := by
    simp [opening, extended, startExtended, layout]
  rw [waiting] at opened
  have nonempty : Bytes.littleEndian 2 data.length ≠ [] := by simp [Bytes.littleEndian]
  have counted := feedAll_params upper c #[] nonempty
  have notLength : c ≠ Command.pageLength := by
    rintro rfl
    exact absurd extended (by decide)
  rw [Array.empty_append] at counted
  simp only [complete, Command.word_littleEndian short, notLength, false_and, if_false,
    layout] at counted
  rw [← List.append_assoc]
  by_cases empty : data = []
  · subst empty
    exact feedAll_append_of (feedAll_append_of opened counted) rfl
  · rw [if_neg (by simpa using empty)] at counted
    exact feedAll_append_of (feedAll_append_of opened counted) (feedAll_skip upper c empty)

theorem feedAll_characters (mode : UInt8) {first last : UInt8} {patterns : List Pattern}
    (count : patterns.length = rangeSize first last) :
    ({ upperControl := upper } : Reader).feedAll (Command.defineCharacters.bytes ++
        (mode :: first :: last :: patterns.flatMap Pattern.bytes)) =
      ({ upperControl := upper }, []) := by
  have opened := feedAll_opening upper (c := Command.defineCharacters) (by decide)
  have waiting : opening Command.defineCharacters = (.defineRange #[], none) := by decide +kernel
  rw [waiting] at opened
  have ranged : ({ phase := .defineRange #[], upperControl := upper } : Reader).feedAll
        [mode, first, last] =
      ({ phase := if last.toNat < first.toNat then .idle
          else .definePattern #[mode, first, last] (last.toNat - first.toNat + 1) #[]
         upperControl := upper }, []) := rfl
  apply feedAll_append_of opened
  unfold rangeSize at count
  by_cases ordered : first ≤ last
  · have least : ¬ last.toNat < first.toNat := Nat.not_lt.mpr (UInt8.le_iff_toNat_le.mp ordered)
    rw [if_pos ordered] at count
    rw [if_neg least, ← count] at ranged
    have nonempty : patterns ≠ [] := List.ne_nil_of_length_eq_add_one count
    exact feedAll_append_of ranged (feedAll_patterns upper _ nonempty)
  · have backwards : last.toNat < first.toNat :=
      Nat.not_le.mp fun least => ordered (UInt8.le_iff_toNat_le.mpr least)
    rw [if_neg ordered, List.length_eq_zero_iff] at count
    rw [if_pos backwards] at ranged
    subst count
    exact ranged

/-- A sequence without effect is read to its end and means nothing. -/
theorem feedAll_inert {bytes : List UInt8} (inert : Inert bytes) :
    ∃ actions, ({ upperControl := upper } : Reader).feedAll bytes =
      ({ upperControl := upper }, actions) ∧ ∀ action ∈ actions, action.WithoutEffect := by
  cases inert with
  | unknown c simple plain unlisted =>
    exact ⟨[], feedAll_unknown upper simple plain unlisted, nofun⟩
  | skipped c data extended unlisted short =>
    exact ⟨[], feedAll_skipped upper extended unlisted short, nofun⟩
  | characters mode first last patterns count =>
    exact ⟨[], feedAll_characters upper mode count, nofun⟩
  | ignored c params listed layout =>
    obtain ⟨plain, notLength⟩ := Command.simple_of_withoutEffect listed
    refine ⟨[.command c params.toArray], feedAll_fixed upper layout plain ?_, ?_⟩
    · exact fun whole => notLength whole.1
    · rintro action member
      obtain rfl := List.mem_singleton.mp member
      exact ⟨c, params.toArray, rfl, Instruction.ofCommand_of_withoutEffect listed _⟩

end Reader

end PinPrinter
