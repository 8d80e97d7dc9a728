import PinPrinter.BitImage
import PinPrinter.Instruction
import PinPrinter.Stream.Reader

/-! # The interpreter

What the bytes are understood by: the reader, the registers and the layout of the bit image that is
being received.
-/

namespace PinPrinter

/-- The interpreter of the byte stream. -/
structure Interpreter where
  reader : Reader
  registers : Registers
  /-- The density of the image columns that are being received, if it is a known one. -/
  image : Option BitImage.Density

namespace Interpreter

/-- The interpreter with these registers, between sequences. -/
def withRegisters (registers : Registers) : Interpreter where
  reader := ({} : Reader).setUpperControl (!registers.printUpper)
  registers := registers
  image := none

/-- The interpreter at power-on, for paper of a size in inches. -/
def powerOn (width height : Float) : Interpreter :=
  withRegisters (.powerOn width height)

/-- Everything as at power-on, for the same paper. -/
def restart (i : Interpreter) : Interpreter :=
  withRegisters i.registers.restore

/-- The number of a density. -/
def densityNumber (r : Registers) : DensitySource → UInt8
  | .given density => density
  | .assigned key => r.densities.get key

/-- Expect the columns of an image. Those of an unknown density have one byte and are dropped. -/
def beginImage (i : Interpreter) (source : DensitySource) (columns : Nat) : Interpreter :=
  let density := BitImage.Density.ofNumber? (densityNumber i.registers source)
  { i with
    image := density
    reader := i.reader.beginImage columns (density.map (·.columnBytes) |>.getD 1) }

end Interpreter

end PinPrinter
