import PinPrinter.Printer.Paper

/-! # Printing a bar code

A request for a bar code is read, then its symbol is encoded, and only then is anything drawn. So a
request that is refused, by whichever of the two, leaves the paper as it is, and one that is not
shows in the sheet and in the place of the pen alone. This holds whatever the encoders are.
-/

namespace PinPrinter

variable {encoders : Barcode.Encoders} {data : List UInt8} {code : Barcode}
  {modules : Barcode.Modules}

/-- The data are refused, or they make a request whose symbol can be encoded. -/
theorem Barcode.refused_or_encoded (encoders : Encoders) (data : List UInt8) :
    (∃ e, (parse data).bind (encodeWith encoders) = .error e) ∨
      ∃ code modules, parse data = .ok code ∧ code.encodeWith encoders = .ok modules := by
  cases parsed : parse data with
  | error e => exact .inl ⟨e, rfl⟩
  | ok code =>
    cases encoded : code.encodeWith encoders with
    | error e => exact .inl ⟨e, encoded⟩
    | ok modules => exact .inr ⟨code, modules, rfl, encoded⟩

theorem Barcode.printWith_of_encoded (encoded : code.encodeWith encoders = .ok modules) (s : Sheet)
    (x y : Float) (ink : Ink) :
    code.printWith encoders s x y ink =
      .ok ((code.draw s x y ink modules).1, (code.draw s x y ink modules).2 - x) := by
  simp only [printWith, encoded]

namespace Paper

/-- The paper with the modules of a symbol on it, and the pen behind them. -/
def withSymbol (p : Paper) (r : Registers) (code : Barcode) (modules : Barcode.Modules) : Paper :=
  let (sheet, reach) := code.draw p.sheet p.pen.x p.pen.y r.ink modules
  { p with sheet := sheet, pen := ⟨p.pen.x + (reach - p.pen.x), p.pen.y⟩ }

theorem printBarcodeWith_of_refused {e : Error}
    (refused : (Barcode.parse data).bind (Barcode.encodeWith encoders) = .error e) (p : Paper)
    (r : Registers) : p.printBarcodeWith encoders r data = p := by
  unfold printBarcodeWith
  cases parsed : Barcode.parse data with
  | error e => rfl
  | ok code =>
    rw [parsed] at refused
    change code.encodeWith encoders = .error e at refused
    simp only [Except.bind, Barcode.printWith, refused]

theorem printBarcodeWith_of_encoded (parsed : Barcode.parse data = .ok code)
    (encoded : code.encodeWith encoders = .ok modules) (p : Paper) (r : Registers) :
    p.printBarcodeWith encoders r data = p.withSymbol r code modules := by
  simp only [printBarcodeWith, parsed, Except.bind, Barcode.printWith_of_encoded encoded]
  rfl

/-- What holds of a paper, and of it with every symbol that the data can make, holds after a bar
code. -/
theorem holds_printBarcode {motive : Paper → Prop} {p : Paper} {r : Registers} (held : motive p)
    (printed : ∀ code modules, Barcode.parse data = .ok code →
      motive (p.withSymbol r code modules)) :
    motive (p.printBarcode r data) := by
  rcases Barcode.refused_or_encoded .standard data with
    ⟨e, refused⟩ | ⟨code, modules, parsed, encoded⟩
  · rw [printBarcode, printBarcodeWith_of_refused refused]
    exact held
  · rw [printBarcode, printBarcodeWith_of_encoded parsed encoded]
    exact printed code modules parsed

end Paper

end PinPrinter
