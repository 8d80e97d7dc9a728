import PinPrinter.Printer

/-! # The parallel interface

The registers that the driver of a host reads and writes. The data register latches a byte; the
printer gets it when the strobe line falls, and the first strobe switches the printer on. A status
read takes the acknowledgement of the latest byte with it.
-/

namespace PinPrinter

/-- A parallel interface with its printer. -/
structure ParallelInterface where
  config : Config
  host : Host
  /-- The document directory, until the printer has it. -/
  folder : Folder
  printer : Option Printer := none
  data : UInt8 := 0
  control : UInt8

namespace ParallelInterface

/-- The control line that hands over a byte when it falls. -/
def strobe : UInt8 := 0x01

/-- The control line for a line feed after every carriage return. -/
def autofeedLine : UInt8 := 0x02

/-- The control line that resets the printer when it rises. -/
def initLine : UInt8 := 0x04

/-- The status of a printer that is ready. -/
def notBusy : UInt8 := 0x80

/-- The status of a printer with no byte to acknowledge. -/
def notAcknowledged : UInt8 := 0x40

/-- The status bits that are always set. -/
def statusIdle : UInt8 := 0x1F

/-- The status without a printer. -/
def noPrinter : UInt8 := 0xDF

/-- The control bits that are always set. -/
def controlUnused : UInt8 := 0xE0

/-- A line is high in a register. -/
def high (register line : UInt8) : Bool :=
  register &&& line != 0

/-- An interface for an accepted configuration. -/
def new (config : Config) (host : Host) (folder : Folder) : Except Error ParallelInterface :=
  config.validate.map fun config =>
    { config := config, host := host, folder := folder, control := initLine }

/-- Latch a byte. -/
def writeData (p : ParallelInterface) (value : UInt8) : ParallelInterface :=
  { p with data := value }

/-- The latched byte. -/
def readData (p : ParallelInterface) : UInt8 :=
  p.data

/-- Read the status. -/
def readStatus (p : ParallelInterface) : ParallelInterface × UInt8 :=
  match p.printer with
  | none => (p, noPrinter)
  | some printer =>
    let ready := if printer.busy then statusIdle else statusIdle ||| notBusy
    let (printer, acknowledged) := printer.acknowledge
    ({ p with printer := some printer },
      if acknowledged then ready else ready ||| notAcknowledged)

/-- Read the control register. -/
def readControl (p : ParallelInterface) : UInt8 :=
  match p.printer with
  | none => controlUnused ||| p.control
  | some printer =>
    controlUnused ||| (if printer.autofeed then autofeedLine else 0) |||
      (p.control &&& (autofeedLine ^^^ 0xFF))

/-- The printer, switched on if it was not and the configuration has one. -/
def powerOn (p : ParallelInterface) : Option Printer :=
  match p.printer with
  | some printer => some printer
  | none =>
    if p.config.enabled then
      match Printer.new p.config p.host p.folder with
      | .ok printer => some (printer.setAutofeed (high p.control autofeedLine))
      | .error _ => none
    else none

/-- Reset the printer, if there is one and the line rises. -/
def raiseInit (p : ParallelInterface) (value : UInt8) : ParallelInterface :=
  if high value initLine && !high p.control initLine then
    { p with printer := p.printer.map Printer.resetHard }
  else p

/-- Hand the latched byte over, if the line falls. -/
def dropStrobe (p : ParallelInterface) (now : Nat) (value : UInt8) : ParallelInterface :=
  if !high value strobe && high p.control strobe then
    match p with
    | ⟨config, host, folder, printer, data, control⟩ =>
      let printer := (powerOn ⟨config, host, folder, printer, data, control⟩).map fun printer =>
        printer.receive now data
      ⟨config, host, folder, printer, data, control⟩
  else p

/-- Write the control register: a reset comes before a byte, and the byte is still printed with the
line feed setting from before. -/
def writeControl (p : ParallelInterface) (now : Nat) (value : UInt8) : ParallelInterface :=
  match (p.raiseInit value).dropStrobe now value with
  | ⟨config, host, folder, printer, data, _⟩ =>
    ⟨config, host, folder, printer.map fun printer =>
      printer.setAutofeed (high value autofeedLine), data, value⟩

/-- Strobe one byte through the interface, and take its acknowledgement. -/
def sendByte (idle : UInt8) (now : Nat) (p : ParallelInterface) (byte : UInt8) :
    ParallelInterface :=
  (((p.writeData byte).writeControl now (idle ||| strobe)).writeControl now idle).readStatus.1

/-- Strobe bytes through the interface. -/
def send (p : ParallelInterface) (now : Nat) (bytes : List UInt8) : ParallelInterface :=
  bytes.foldl (sendByte (p.control &&& (strobe ^^^ 0xFF)) now) p

/-- The eject button. -/
def formFeed (p : ParallelInterface) : ParallelInterface :=
  { p with printer := p.printer.map Printer.formFeed }

/-- Finish the document or job that is open. -/
def finish (p : ParallelInterface) : ParallelInterface :=
  { p with printer := p.printer.map Printer.finish }

/-- Ask the timer of the printer. -/
def poll (p : ParallelInterface) (now : Nat) : ParallelInterface × Bool :=
  match p.printer with
  | none => (p, false)
  | some printer =>
    let (printer, fired) := printer.poll now
    ({ p with printer := some printer }, fired)

/-- The document directory as it is. -/
def currentFolder (p : ParallelInterface) : Folder :=
  match p.printer with
  | none => p.folder
  | some printer => printer.paper.outbox.folder

end ParallelInterface

end PinPrinter
