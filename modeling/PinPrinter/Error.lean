import PinPrinter.Barcode.Modules

/-! # Errors

Everything that can go wrong outside of the interpreter, which never fails: a malformed stream is
passed over. An error is a cause; its text is made in one place.
-/

namespace PinPrinter

/-- The symbologies that a bar code can ask for. -/
inductive Symbology where
  | ean13
  | ean8
  | interleaved2of5
  | upcA
  | upcE
  | code39
  | code128
  | postnet
  deriving DecidableEq, Repr, Inhabited

namespace Symbology

/-- The symbology of a selector. -/
def ofSelector? (k : UInt8) : Option Symbology :=
  match k.toNat with
  | 0 => some ean13
  | 1 => some ean8
  | 2 => some interleaved2of5
  | 3 => some upcA
  | 4 => some upcE
  | 5 => some code39
  | 6 => some code128
  | 7 => some postnet
  | _ => none

/-- The name of a symbology. -/
def name : Symbology → String
  | ean13 => "Ean13"
  | ean8 => "Ean8"
  | interleaved2of5 => "Interleaved2of5"
  | upcA => "UpcA"
  | upcE => "UpcE"
  | code39 => "Code39"
  | code128 => "Code128"
  | postnet => "Postnet"

end Symbology

/-- Why a file cannot be read or written. -/
inductive FileFault where
  | notFound
  | isDirectory
  | notDirectory
  /-- A name in the path, or the path, has too many bytes. -/
  | nameTooLong
  /-- The file holds no Unicode text. -/
  | notText
  /-- Another fault, in the words of the system. -/
  | other (reason : String)
  deriving DecidableEq, Repr, Inhabited

/-- The text of a file fault. -/
def FileFault.message : FileFault → String
  | .notFound => "No such file or directory (os error 2)"
  | .isDirectory => "Is a directory (os error 21)"
  | .notDirectory => "Not a directory (os error 20)"
  | .nameTooLong => "File name too long (os error 36)"
  | .notText => "stream did not contain valid UTF-8"
  | .other reason => reason

/-- What went wrong. -/
inductive Error where
  | zeroDpi
  | paperSize (width height : Nat)
  | unknownFormat (name : String)
  /-- The configuration text is not JSON, or not a configuration. -/
  | malformedConfig
  | pageWidth (width : Nat)
  | pageHeight (height : Nat)
  /-- A picture that its encoder refuses, for a reason in its own words. -/
  | picture (reason : String)
  | barcodeHeader (bytes : Nat)
  | unknownSymbology (selector : UInt8)
  | unsupportedSymbology (symbology : Symbology)
  | barcodeData (symbology : Symbology) (refusal : Barcode.Refusal)
  | noSpooler
  | spoolerStart (command reason : String)
  | spoolerExit (status : Nat)
  | file (fault : FileFault)
  deriving DecidableEq, Repr, Inhabited

namespace Error

/-- The part of the printer that an error comes from. -/
inductive Kind where
  | config
  | json
  | image
  | barcode
  | spooler
  | io
  deriving DecidableEq, Repr

/-- The kind of an error. -/
def kind : Error → Kind
  | zeroDpi | paperSize .. | unknownFormat _ => .config
  | malformedConfig => .json
  | pageWidth _ | pageHeight _ | picture _ => .image
  | barcodeHeader _ | unknownSymbology _ | unsupportedSymbology _ | barcodeData .. => .barcode
  | noSpooler | spoolerStart .. | spoolerExit _ => .spooler
  | file _ => .io

/-- The words that open the text of an error of a kind. -/
def Kind.label : Kind → String
  | .config => "Configuration error"
  | .json => "JSON error"
  | .image => "Image error"
  | .barcode => "Bar code error"
  | .spooler => "Spooler error"
  | .io => "I/O error"

/-- What went wrong, without the kind. -/
def detail : Error → String
  | zeroDpi => "dpi must be positive"
  | paperSize width height => s!"Invalid paper size {width}x{height} (1/10 inch)"
  | unknownFormat name => s!"Unknown output '{name}'. Use png, ps, bmp or printer"
  | malformedConfig => "not a printer configuration"
  | pageWidth width => s!"page width {width} too large"
  | pageHeight height => s!"page height {height} too large"
  | picture reason => reason
  | barcodeHeader bytes => s!"header needs 6 bytes, got {bytes}"
  | unknownSymbology selector => s!"unknown symbology {selector.toNat}"
  | unsupportedSymbology symbology => symbology.name ++ " is not supported"
  | barcodeData symbology refusal => symbology.name ++ " rejected data: " ++ refusal.message
  | noSpooler => "no spooler command configured"
  | spoolerStart command reason => s!"cannot start '{command}': {reason}"
  | spoolerExit status => s!"spooler exited with exit status: {status}"
  | file fault => fault.message

/-- The text of an error. -/
def message (e : Error) : String :=
  e.kind.label ++ ": " ++ e.detail

end Error

end PinPrinter
