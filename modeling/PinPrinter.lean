import PinPrinter.CommandLine.FileTree
import PinPrinter.Main
import PinPrinter.Proofs.PostScript.Document
import PinPrinter.Proofs.Printer.Coherence
import PinPrinter.Proofs.Registers.Appearance
import PinPrinter.Proofs.Registers.Font
import PinPrinter.Proofs.Stream.Token
import PinPrinter.Proofs.Drawing
import PinPrinter.Proofs.Printer.Events
import PinPrinter.Proofs.TypeCase
import PinPrinter.Proofs.Printer.Alike
import PinPrinter.Proofs.Printer.Layout
import PinPrinter.Proofs.Printer.PanelEvents
import PinPrinter.Proofs.Printer.Restart
import PinPrinter.Proofs.Printer.Inert
import PinPrinter.Proofs.Inking
import PinPrinter.Proofs.Printer.Emission
import PinPrinter.Proofs.ParallelInterface.Handshake
import PinPrinter.Proofs.Outbox.Filing
import PinPrinter.Proofs.Printer.Autofeed
import PinPrinter.Proofs.Printer.MsbControl
import PinPrinter.Proofs.Printer.PrintableArea
import PinPrinter.Proofs.Printer.Geometry
import PinPrinter.Proofs.Registers.CharacterMap
import PinPrinter.Proofs.Stream.Checked
import PinPrinter.Proofs.Printer.EjectTimer
import PinPrinter.Proofs.Printer.BitImage
import PinPrinter.Proofs.Stream.Progress
import PinPrinter.Proofs.Printer.TabList
import PinPrinter.Proofs.Overprint
import PinPrinter.Proofs.BlankSheet
import PinPrinter.Proofs.PostScript.Comments
import PinPrinter.Proofs.Barcode.Bars
import PinPrinter.Proofs.Printer.LineEnds
import PinPrinter.Proofs.Printer.VerticalTab
import PinPrinter.Proofs.Printer.BarCode
import PinPrinter.Proofs.CommandLine.Report
import PinPrinter.Proofs.Bitmap.Bmp
import PinPrinter.Proofs.Config.Text
import PinPrinter.Proofs.Scaling
import PinPrinter.Proofs.Leaning
