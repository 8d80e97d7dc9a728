import PinPrinter.Bitmap.Bytes
import PinPrinter.Proofs.Stream.Reading

/-! # Tokens of the command language

A token is one complete item of a byte stream: a character, a control code, or a command with all
that belongs to it. `Token.bytes` writes a token and `Token.actions` says what it means.
`Reader.feedAll_tokens` reads every stream of tokens back, so no parameter or data byte, whatever
its value, can be taken for the start of something else.
-/

namespace PinPrinter

/-- The bytes that announce a command. -/
def Command.bytes (c : Command) : List UInt8 :=
  match c.introducer with
  | .esc => [Control.escape, c.opcode]
  | .fs => [Control.fileSeparator, c.opcode]
  | .extended => [Control.escape, Command.extension, c.opcode]

/-- One complete item of a byte stream. -/
inductive Token where
  | character (byte : UInt8)
  | control (code : Control)
  /-- A command of a fixed layout. -/
  | fixed (row : Command.Row) (params : List UInt8)
  | barCode (data : List UInt8)
  /-- Data that is printed as it stands. -/
  | printData (data : List UInt8)
  | tabs (axis : TabAxis) (stops : List UInt8)
  /-- A list of lines behind a channel byte. -/
  | channelTabs (channel : UInt8) (lines : List UInt8)
  deriving DecidableEq, Repr

namespace Token

/-- The command that opens a list of tab stops. -/
def tabCommand : TabAxis → Command
  | .horizontal => ⟨.esc, 'D'.toUInt8⟩
  | .vertical => ⟨.esc, 'B'.toUInt8⟩

/-- The command that opens a list of lines behind a channel byte. -/
def channelCommand : Command :=
  ⟨.esc, 'b'.toUInt8⟩

/-- The bytes of a token. Counts have two bytes, and a zero ends a list of tab stops. -/
def bytes : Token → List UInt8
  | character byte => [byte]
  | control code => [code.byte]
  | fixed row params => row.command.bytes ++ params
  | barCode data => Command.barCode.bytes ++ (Bytes.littleEndian 2 data.length ++ data)
  | printData data => Command.printData.bytes ++ (Bytes.littleEndian 2 data.length ++ data)
  | tabs axis stops => (tabCommand axis).bytes ++ (stops ++ [0])
  | channelTabs channel lines => channelCommand.bytes ++ (channel :: (lines ++ [0]))

/-- What a token means. -/
def actions : Token → List Action
  | character byte => [.print byte]
  | control code => [.control code]
  | fixed row params => [.command row.command params.toArray]
  | barCode data => [.payload Command.barCode data.toArray]
  | printData data => data.map .print
  | tabs axis stops => [.tabs axis stops.toArray]
  | channelTabs _ lines => [.tabs .vertical lines.toArray]

/-- A byte that prints a character, where the bytes from 80h to 9Fh may repeat control codes. -/
def Printable (upper : Bool) (byte : UInt8) : Prop :=
  byte ≠ Control.escape ∧ byte ≠ Control.fileSeparator ∧ Control.ofByte? byte = none ∧
    (upper = true → ¬ (0x80 ≤ byte ∧ byte ≤ 0x9F))

/-- The parameters of a page length: lines, or a zero and inches. -/
def LengthParams : List UInt8 → Prop
  | [lines] => lines ≠ 0
  | [marker, _] => marker = 0
  | _ => False

/-- The parameters that a line of the table asks for. -/
def Params (row : Command.Row) (params : List UInt8) : Prop :=
  if row.command = Command.pageLength then LengthParams params
  else row.layout = .fixed params.length

/-- A list of tab stops that is taken whole. -/
def Stops (axis : TabAxis) (stops : List UInt8) : Prop :=
  stops.Pairwise (· < ·) ∧ 0 ∉ stops ∧ stops.length ≤ axis.capacity

/-- A token that the language has. -/
def Valid (upper : Bool) : Token → Prop
  | character byte => Printable upper byte
  | control _ => True
  | fixed row params => row ∈ Command.table ∧ Params row params
  | barCode data => data.length < 65536
  | printData data => data.length < 65536
  | tabs axis stops => Stops axis stops
  | channelTabs _ lines => Stops .vertical lines

instance (upper : Bool) (byte : UInt8) : Decidable (Printable upper byte) :=
  inferInstanceAs (Decidable (byte ≠ Control.escape ∧ byte ≠ Control.fileSeparator ∧
    Control.ofByte? byte = none ∧ (upper = true → ¬ (0x80 ≤ byte ∧ byte ≤ 0x9F))))

instance : (params : List UInt8) → Decidable (LengthParams params)
  | [] => inferInstanceAs (Decidable False)
  | [lines] => inferInstanceAs (Decidable (lines ≠ 0))
  | [marker, _] => inferInstanceAs (Decidable (marker = 0))
  | _ :: _ :: _ :: _ => inferInstanceAs (Decidable False)

instance (row : Command.Row) (params : List UInt8) : Decidable (Params row params) :=
  inferInstanceAs (Decidable (if row.command = Command.pageLength then LengthParams params
    else row.layout = .fixed params.length))

instance (axis : TabAxis) (stops : List UInt8) : Decidable (Stops axis stops) :=
  inferInstanceAs
    (Decidable (stops.Pairwise (· < ·) ∧ 0 ∉ stops ∧ stops.length ≤ axis.capacity))

instance (upper : Bool) : (token : Token) → Decidable (token.Valid upper)
  | character byte => inferInstanceAs (Decidable (Printable upper byte))
  | control _ => inferInstanceAs (Decidable True)
  | fixed row params => inferInstanceAs (Decidable (row ∈ Command.table ∧ Params row params))
  | barCode data | printData data => inferInstanceAs (Decidable (data.length < 65536))
  | tabs axis stops => inferInstanceAs (Decidable (Stops axis stops))
  | channelTabs _ lines => inferInstanceAs (Decidable (Stops .vertical lines))

/-- The first stop of a list stands above the zero that the reader compares it with. -/
theorem Stops.pairwise_zero_cons {axis : TabAxis} {stops : List UInt8}
    (taken : Stops axis stops) : ((0 : UInt8) :: stops).Pairwise (· < ·) := by
  refine List.pairwise_cons.mpr ⟨?_, taken.1⟩
  intro stop member
  have nonzero : stop ≠ 0 := by
    rintro rfl
    exact taken.2.1 member
  exact UInt8.pos_iff_ne_zero.mpr nonzero

end Token

namespace Command

/-- No command stands in two lines of the table. -/
theorem layout?_of_mem_table {row : Row} (listed : row ∈ table) :
    row.command.layout? = some row.layout := by
  revert row
  decide +kernel

/-- No command introduced by `ESC` has the opcode that announces an extended one. -/
theorem opcode_ne_extension {row : Row} (listed : row ∈ table)
    (esc : row.command.introducer = .esc) : row.command.opcode ≠ extension := by
  revert row
  decide +kernel

theorem layout?_pageLength : pageLength.layout? = some (.fixed 1) :=
  rfl

theorem word_littleEndian {n : Nat} (bound : n < 65536) :
    word (Bytes.littleEndian 2 n).toArray 0 = n := by
  have low : (UInt8.ofNat (n % 256)).toNat = n % 256 := by simp
  have high : (UInt8.ofNat (n / 256 % 256)).toNat = n / 256 := by
    simp only [UInt8.toNat_ofNat']
    omega
  simp only [word, Bytes.littleEndian, List.getElem?_toArray, Nat.zero_add,
    List.getElem?_cons_zero, List.getElem?_cons_succ, Option.getD_some, low, high]
  omega

end Command

namespace Reader

variable (upper : Bool)

/-- The phase and action that follow the bytes of a command. -/
def opening (c : Command) : Phase × Option Action :=
  if c.introducer = .extended then startExtended c else start c

theorem feedAll_opening {c : Command}
    (esc : c.introducer = .esc → c.opcode ≠ Command.extension) :
    ({ upperControl := upper } : Reader).feedAll c.bytes =
      ({ phase := (opening c).1, upperControl := upper }, (opening c).2.toList) := by
  obtain ⟨introducer, opcode⟩ := c
  cases introducer with
  | esc =>
    have plain : opcode ≠ Command.extension := esc rfl
    cases upper <;> simp [Command.bytes, feedAll, feed, takeIdle, Control.escape, plain, opening]
  | fs =>
    cases upper <;>
      simp [Command.bytes, feedAll, feed, takeIdle, Control.escape, Control.fileSeparator, opening]
  | extended =>
    cases upper <;> simp [Command.bytes, feedAll, feed, takeIdle, Control.escape, opening]

/-- An announced command that is understood is started. -/
theorem feedAll_command {c : Command} (known : c.layout?.isSome)
    (esc : c.introducer = .esc → c.opcode ≠ Command.extension) :
    ({ upperControl := upper } : Reader).feedAll c.bytes =
      ({ phase := (start c).1, upperControl := upper }, (start c).2.toList) := by
  have started : opening c = start c := by
    unfold opening startExtended
    rw [if_pos known, ite_self]
  rw [feedAll_opening upper esc, started]

theorem complete_fixed (r : Reader) {c : Command} {count : Nat} {params : Array UInt8}
    (layout : c.layout? = some (.fixed count))
    (whole : ¬ (c = Command.pageLength ∧ params = #[0])) :
    r.complete c params = ({ r with phase := .idle }, some (.command c params)) := by
  simp only [complete, if_neg whole, layout]

theorem feedAll_fixed {c : Command} {params : List UInt8}
    (layout : c.layout? = some (.fixed params.length))
    (esc : c.introducer = .esc → c.opcode ≠ Command.extension)
    (whole : ¬ (c = Command.pageLength ∧ params = [0])) :
    ({ upperControl := upper } : Reader).feedAll (c.bytes ++ params) =
      ({ upperControl := upper }, [.command c params.toArray]) := by
  have known : c.layout?.isSome := by rw [layout]; rfl
  have announced := feedAll_command upper known esc
  cases params with
  | nil =>
    rw [List.append_nil, announced]
    simp [start, layout]
  | cons first rest =>
    have started : start c = (.params c (first :: rest).length #[], none) := by
      simp [start, layout]
    have collected := feedAll_params upper c #[] (List.cons_ne_nil first rest)
    rw [Array.empty_append, complete_fixed _ layout (by simpa using whole)] at collected
    rw [started] at announced
    simpa using feedAll_append_of announced (by simpa using collected)

/-- A page length of no lines is one in inches, of which one more byte follows. -/
theorem feedAll_inches (inches : UInt8) :
    ({ upperControl := upper } : Reader).feedAll (Command.pageLength.bytes ++ [0, inches]) =
      ({ upperControl := upper }, [.command Command.pageLength #[0, inches]]) := by
  have announced := feedAll_command upper (c := Command.pageLength)
    (by rw [Command.layout?_pageLength]; rfl) (by decide)
  have started : start Command.pageLength = (.params Command.pageLength 1 #[], none) := by
    simp [start, Command.layout?_pageLength]
  rw [started] at announced
  refine feedAll_append_of announced ?_
  have second := feedAll_params upper Command.pageLength #[0] (List.cons_ne_nil inches [])
  have whole : ¬ (Command.pageLength = Command.pageLength ∧
      #[(0 : UInt8)] ++ [inches].toArray = #[0]) := by simp
  rw [complete_fixed _ Command.layout?_pageLength whole] at second
  exact feedAll_cons_silent rfl second

/-- A counted command waits for as many bytes of data as it announces. -/
theorem feedAll_count {c : Command} {data : List UInt8} (layout : c.layout? = some .counted)
    (extended : c.introducer = .extended) (short : data.length < 65536) :
    ({ upperControl := upper } : Reader).feedAll
        (c.bytes ++ Bytes.littleEndian 2 data.length) =
      if c = Command.printData then ({ literal := data.length, upperControl := upper }, [])
      else if data = [] then ({ upperControl := upper }, [.payload c #[]])
      else ({ phase := .payload c data.length #[], upperControl := upper }, []) := by
  have announced := feedAll_command upper (c := c) (by rw [layout]; rfl)
    (by simp [extended])
  have started : start c = (.params c 2 #[], none) := by simp [start, layout]
  have nonempty : Bytes.littleEndian 2 data.length ≠ [] := by simp [Bytes.littleEndian]
  have counted := feedAll_params upper c #[] nonempty
  rw [started] at announced
  have notLength : c ≠ Command.pageLength := by
    rintro rfl
    exact absurd extended (by decide)
  rw [feedAll_append_of announced (by simpa using counted)]
  simp only [complete, Command.word_littleEndian short, notLength, false_and, if_false, layout,
    List.length_eq_zero_iff]
  by_cases printed : c = Command.printData
  · simp [printed]
  · by_cases empty : data = [] <;> simp [printed, empty]

theorem feedAll_barCode {data : List UInt8} (short : data.length < 65536) :
    ({ upperControl := upper } : Reader).feedAll
        (Command.barCode.bytes ++ (Bytes.littleEndian 2 data.length ++ data)) =
      ({ upperControl := upper }, [.payload Command.barCode data.toArray]) := by
  have counted := feedAll_count upper (c := Command.barCode) rfl rfl short
  have other : Command.barCode ≠ Command.printData := by decide
  rw [if_neg other] at counted
  rw [← List.append_assoc]
  by_cases empty : data = []
  · rw [if_pos empty] at counted
    subst empty
    simpa using counted
  · rw [if_neg empty] at counted
    have taken := feedAll_payload upper Command.barCode #[] empty
    simpa using feedAll_append_of counted taken

/-- The data to be printed becomes literal bytes, and each of them is printed. -/
theorem feedAll_printData {data : List UInt8} (short : data.length < 65536) :
    ({ upperControl := upper } : Reader).feedAll
        (Command.printData.bytes ++ (Bytes.littleEndian 2 data.length ++ data)) =
      ({ upperControl := upper }, data.map .print) := by
  have counted := feedAll_count upper (c := Command.printData) rfl rfl short
  rw [if_pos rfl] at counted
  rw [← List.append_assoc]
  exact feedAll_append_of counted (feedAll_literal upper data)

theorem feedAll_stops {axis : TabAxis} {stops : List UInt8} (taken : Token.Stops axis stops) :
    ({ phase := listing axis [], upperControl := upper } : Reader).feedAll (stops ++ [0]) =
      ({ upperControl := upper }, [.tabs axis stops.toArray]) := by
  have listed := feedAll_list upper axis taken.pairwise_zero_cons UInt8.zero_le
  rwa [List.take_of_length_le taken.2.2] at listed

/-- The command that opens a list of tab stops is read without an action. -/
theorem feedAll_tabCommand (axis : TabAxis) :
    ({ upperControl := upper } : Reader).feedAll (Token.tabCommand axis).bytes =
      ({ phase := listing axis [], upperControl := upper }, []) := by
  have announced := feedAll_command upper (c := Token.tabCommand axis)
    (by cases axis <;> rfl) (by cases axis <;> decide)
  have started : start (Token.tabCommand axis) = (listing axis [], none) := by
    cases axis <;> rfl
  rw [started] at announced
  exact announced

/-- The channel byte in front of a list of lines is passed over. -/
theorem feedAll_channelCommand (channel : UInt8) :
    ({ upperControl := upper } : Reader).feedAll (Token.channelCommand.bytes ++ [channel]) =
      ({ phase := listing .vertical [], upperControl := upper }, []) := by
  have announced := feedAll_command upper (c := Token.channelCommand)
    rfl (by decide)
  have started : start Token.channelCommand = (.channel, none) := rfl
  rw [started] at announced
  exact feedAll_append_of announced rfl

theorem feed_character {byte : UInt8} (printable : Token.Printable upper byte) :
    ({ upperControl := upper } : Reader).feed byte =
      ({ upperControl := upper }, some (.print byte)) := by
  obtain ⟨notEscape, notSeparator, notControl, notUpper⟩ := printable
  have plain : (upper && (decide (0x80 ≤ byte) && decide (byte ≤ 0x9F))) = false := by
    cases upper with
    | false => rfl
    | true => simpa using notUpper rfl
  simp only [feed, takeIdle, Nat.lt_irrefl, if_false, plain, Bool.false_eq_true, notEscape,
    notSeparator, notControl]

theorem feed_control (code : Control) :
    ({ upperControl := upper } : Reader).feed code.byte =
      ({ upperControl := upper }, some (.control code)) := by
  cases upper <;> cases code <;> decide

/-- A token is read from between sequences, and leaves the reader there. -/
theorem feedAll_token {token : Token} (valid : token.Valid upper) :
    ({ upperControl := upper } : Reader).feedAll token.bytes =
      ({ upperControl := upper }, token.actions) := by
  cases token with
  | character byte => exact feedAll_cons_of (feed_character upper valid) rfl
  | control code => exact feedAll_cons_of (feed_control upper code) rfl
  | fixed row params =>
    obtain ⟨listed, fits⟩ := valid
    have layout := Command.layout?_of_mem_table listed
    have esc := Command.opcode_ne_extension listed
    unfold Token.Params at fits
    by_cases length : row.command = Command.pageLength
    · rw [if_pos length] at fits
      simp only [Token.bytes, Token.actions, length]
      match params, fits with
      | [lines], lines_ne =>
        refine feedAll_fixed upper Command.layout?_pageLength (by decide) ?_
        rintro ⟨-, equal⟩
        exact lines_ne (List.head_eq_of_cons_eq equal)
      | [marker, inches], marker_eq =>
        cases marker_eq
        exact feedAll_inches upper inches
    · rw [if_neg length] at fits
      rw [fits] at layout
      exact feedAll_fixed upper layout esc (fun whole => length whole.1)
  | barCode data => exact feedAll_barCode upper valid
  | printData data => exact feedAll_printData upper valid
  | tabs axis stops =>
    exact feedAll_append_of (feedAll_tabCommand upper axis) (feedAll_stops upper valid)
  | channelTabs channel lines =>
    have split : Token.channelCommand.bytes ++ (channel :: (lines ++ [0])) =
        Token.channelCommand.bytes ++ [channel] ++ (lines ++ [0]) := by simp
    simp only [Token.bytes, split]
    exact feedAll_append_of (feedAll_channelCommand upper channel) (feedAll_stops upper valid)

/-- A stream of tokens, read from between sequences, means what its tokens mean in their order, and
leaves the reader as it was. -/
theorem feedAll_tokens (r : Reader) (idle : r.phase = .idle) (literal : r.literal = 0)
    {tokens : List Token} (valid : ∀ token ∈ tokens, token.Valid r.upperControl) :
    r.feedAll (tokens.flatMap Token.bytes) = (r, tokens.flatMap Token.actions) := by
  obtain ⟨phase, count, upper⟩ := r
  obtain rfl : phase = .idle := idle
  obtain rfl : count = 0 := literal
  induction tokens with
  | nil => rfl
  | cons token rest ih =>
    have head := feedAll_token upper (valid token (List.mem_cons_self ..))
    have tail := ih fun other member => valid other (List.mem_cons_of_mem _ member)
    exact feedAll_append_of head tail

/-- Data and parameters that look like the start of a sequence, read with the upper control codes
on. -/
theorem feedAll_tokens_lookalikes :
    let r : Reader := { upperControl := true }
    let tokens : List Token :=
      [.fixed ⟨Command.pageLength, .fixed 1, "page length in lines"⟩ [0, 0x1B],
        .printData [0x1B, 0x40, 0x9B], .tabs .horizontal [8, 0x1B], .barCode [0x1C, 0x0D],
        .channelTabs 0x1B [1, 2], .control .carriageReturn, .character 0xA0]
    (r.phase = .idle ∧ r.literal = 0 ∧ ∀ token ∈ tokens, token.Valid r.upperControl) ∧
      r.feedAll (tokens.flatMap Token.bytes) = (r, tokens.flatMap Token.actions) := by
  intro r tokens
  have valid : ∀ token ∈ tokens, token.Valid r.upperControl := by decide +kernel
  exact ⟨⟨rfl, rfl, valid⟩, feedAll_tokens r rfl rfl valid⟩

end Reader

end PinPrinter
