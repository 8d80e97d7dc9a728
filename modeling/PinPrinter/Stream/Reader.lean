import PinPrinter.Stream.Phase

/-! # Reading a byte stream

The reader takes one byte at a time and answers with at most one action. It applies no effect:
how many bytes a bit image column has depends on a register of the printer, so the printer answers
an image command by `Reader.beginImage`.
-/

namespace PinPrinter

/-- The reader of a byte stream. -/
structure Reader where
  phase : Phase := .idle
  /-- Bytes still to print without interpretation. -/
  literal : Nat := 0
  /-- Whether the bytes from 80h to 9Fh repeat the control codes. -/
  upperControl : Bool := false
  deriving DecidableEq, Repr

namespace Reader

/-- The most bytes that a bit image column can have. -/
def maxColumnBytes : Nat := 6

/-- Whether the reader is between sequences. -/
def isIdle (r : Reader) : Bool :=
  r.phase == .idle

/-- Print the next `count` bytes as characters, whatever their values. -/
def printLiterally (r : Reader) (count : Nat) : Reader :=
  { r with literal := count }

/-- Whether the bytes from 80h to 9Fh are to be read as control codes. -/
def setUpperControl (r : Reader) (on : Bool) : Reader :=
  { r with upperControl := on }

/-- Expect `columns` bit image columns of `columnBytes` bytes each. -/
def beginImage (r : Reader) (columns columnBytes : Nat) : Reader :=
  if columns = 0 then r
  else
    let bytes := max 1 (min columnBytes maxColumnBytes)
    { r with phase := .image (columns * bytes) bytes #[] }

/-- The phase and action that follow the opcode of a command. -/
def start (c : Command) : Phase × Option Action :=
  match c.layout? with
  | none => (.idle, none)
  | some (.fixed 0) => (.idle, some (.command c #[]))
  | some (.fixed needed) => (.params c needed #[], none)
  | some .counted => (.params c 2 #[], none)
  | some .horizontalTabs => (.tabs .horizontal #[] 0, none)
  | some .verticalTabs => (.tabs .vertical #[] 0, none)
  | some .channelTabs => (.channel, none)
  | some .userCharacters => (.defineRange #[], none)

/-- An extended command that is not understood still announces the length of its data. -/
def startExtended (c : Command) : Phase × Option Action :=
  if c.layout?.isSome then start c else (.params c 2 #[], none)

/-- What follows the last parameter of a command. A page length of no lines is one in inches, of
which one more byte follows; data to be printed becomes literal bytes. -/
def complete (r : Reader) (c : Command) (params : Array UInt8) : Reader × Option Action :=
  if c = Command.pageLength ∧ params = #[0] then
    ({ r with phase := .params c 2 params }, none)
  else
    let count := Command.word params 0
    match c.layout? with
    | none =>
      ({ r with phase := if count = 0 then .idle else .skip c count }, none)
    | some .counted =>
      if c = Command.printData then ({ r with phase := .idle, literal := count }, none)
      else if count = 0 then ({ r with phase := .idle }, some (.payload c #[]))
      else ({ r with phase := .payload c count #[] }, none)
    | some _ => ({ r with phase := .idle }, some (.command c params))

/-- A byte between sequences. -/
def takeIdle (r : Reader) (byte : UInt8) : Reader × Option Action :=
  if 0 < r.literal then
    ({ r with literal := r.literal - 1 }, some (.print byte))
  else
    let upper := r.upperControl && (0x80 ≤ byte && byte ≤ 0x9F)
    let code := if upper then byte &&& 0x7F else byte
    if code = Control.escape then ({ r with phase := .escape }, none)
    else if code = Control.fileSeparator then ({ r with phase := .fileSeparator }, none)
    else
      match Control.ofByte? code with
      | some control => (r, some (.control control))
      | none => (r, if upper then none else some (.print byte))

/-- A byte of a list of tab stops: a zero or a byte that does not ascend ends the list. -/
def takeTab (axis : TabAxis) (stops : Array UInt8) (last byte : UInt8) : Phase × Option Action :=
  if byte = 0 ∨ (stops.isEmpty = false ∧ byte ≤ last) then
    (.idle, some (.tabs axis stops))
  else
    (.tabs axis (if stops.size < axis.capacity then stops.push byte else stops) byte, none)

/-- A byte of a bit image. -/
def takeImage (remaining columnBytes : Nat) (column : Array UInt8) (byte : UInt8) :
    Phase × Option Action :=
  let column := column.push byte
  let whole := column.size = columnBytes
  let phase := if remaining ≤ 1 then .idle
    else .image (remaining - 1) columnBytes (if whole then #[] else column)
  (phase, if whole then some (.column column) else none)

/-- The pattern of one character is over. -/
def endPattern (range : Array UInt8) (characters : Nat) : Phase :=
  if characters ≤ 1 then .idle else .definePattern range (characters - 1) #[]

/-- A byte of the range of characters that are to be defined; an empty range ends the command. -/
def takeRange (range : Array UInt8) (byte : UInt8) : Phase :=
  let range := range.push byte
  if range.size < 3 then .defineRange range
  else
    let first := (range[1]?.getD 0).toNat
    let last := (range[2]?.getD 0).toNat
    if last < first then .idle else .definePattern range (last - first + 1) #[]

/-- A byte of the header of a pattern: the second one counts columns of three bytes each. -/
def takePattern (range : Array UInt8) (characters : Nat) (header : Array UInt8) (byte : UInt8) :
    Phase :=
  let header := header.push byte
  if header.size < 3 then .definePattern range characters header
  else
    let bytes := (header[1]?.getD 0).toNat * 3
    if bytes = 0 then endPattern range characters else .skipPattern range characters header bytes

/-- Take one byte. -/
def feed (r : Reader) (byte : UInt8) : Reader × Option Action :=
  let goto (next : Phase × Option Action) : Reader × Option Action :=
    ({ r with phase := next.1 }, next.2)
  match r.phase with
  | .idle => r.takeIdle byte
  | .escape =>
    if byte = Command.extension then goto (.extended, none) else goto (start ⟨.esc, byte⟩)
  | .fileSeparator => goto (start ⟨.fs, byte⟩)
  | .extended => goto (startExtended ⟨.extended, byte⟩)
  | .params c needed collected =>
    let collected := collected.push byte
    if collected.size < needed then goto (.params c needed collected, none)
    else r.complete c collected
  | .tabs axis stops last => goto (takeTab axis stops last byte)
  | .channel => goto (.tabs .vertical #[] 0, none)
  | .image remaining columnBytes column => goto (takeImage remaining columnBytes column byte)
  | .payload c remaining data =>
    if remaining ≤ 1 then goto (.idle, some (.payload c (data.push byte)))
    else goto (.payload c (remaining - 1) (data.push byte), none)
  | .skip c remaining =>
    if remaining ≤ 1 then goto (.idle, none) else goto (.skip c (remaining - 1), none)
  | .defineRange range => goto (takeRange range byte, none)
  | .definePattern range characters header => goto (takePattern range characters header byte, none)
  | .skipPattern range characters header remaining =>
    if remaining ≤ 1 then goto (endPattern range characters, none)
    else goto (.skipPattern range characters header (remaining - 1), none)

/-- Take a block of bytes and list the actions in order. -/
def feedAll (r : Reader) : List UInt8 → Reader × List Action
  | [] => (r, [])
  | byte :: rest =>
    let (next, action) := r.feed byte
    let (final, actions) := next.feedAll rest
    (final, action.toList ++ actions)

end Reader

end PinPrinter
