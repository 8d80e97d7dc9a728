import PinPrinter.CodePage
import PinPrinter.Ink
import PinPrinter.Registers.Style
import PinPrinter.Stream.Phase
import PinPrinter.Typeface

/-! # Registers

The typographic settings of the printer: margins, pitch, style, tab stops, character tables and
densities. All positions are inches from the top left corner of the paper. The place of the pen is
not among them.
-/

namespace PinPrinter

/-- The vertical tab stops. -/
inductive VerticalTabs where
  /-- None have been set since the printer was initialised. -/
  | unset
  /-- The positions of the stops in inches; no position means that all were cancelled. -/
  | stops (positions : List Float)
  deriving Inhabited

/-- The commands whose density can be reassigned. -/
inductive DensityKey where
  | k
  | l
  | y
  | z
  deriving DecidableEq, Repr

/-- The densities behind the plain image commands. -/
structure Densities where
  k : UInt8 := 0
  l : UInt8 := 1
  y : UInt8 := 2
  z : UInt8 := 3
  deriving DecidableEq, Repr, Inhabited

namespace Densities

/-- The density behind a command. -/
def get (d : Densities) : DensityKey → UInt8
  | .k => d.k
  | .l => d.l
  | .y => d.y
  | .z => d.z

/-- Put another density behind a command. -/
def set (d : Densities) (key : DensityKey) (density : UInt8) : Densities :=
  match key with
  | .k => { d with k := density }
  | .l => { d with l := density }
  | .y => { d with y := density }
  | .z => { d with z := density }

end Densities

/-- The settings of the printer. -/
structure Registers where
  /-- The configured paper, which outlives an initialisation. -/
  paperWidth : Float
  paperHeight : Float
  pageWidth : Float
  pageHeight : Float
  topMargin : Float
  bottomMargin : Float
  leftMargin : Float
  rightMargin : Float
  lineSpacing : Float
  /-- The pitch that was asked for, before the style changes it. -/
  cpi : Float
  style : Style
  score : Score
  ink : Ink
  quality : Quality
  typeface : Typeface
  /-- The space added after every character. -/
  extraSpacing : Float
  /-- The way from character to character, where it overrides the pitch. -/
  motionIndex : Option Float
  /-- The unit of positions, where one has been defined. -/
  unit : Option Float
  /-- Whether pitch and point size are set apart from the style. -/
  multipoint : Bool
  multiCpi : Float
  multiPoints : Float
  /-- The value forced on the highest bit of every byte, if one is. -/
  msb : Option Bool
  /-- Whether the bytes from 80h to 9Fh are printed. -/
  printUpper : Bool
  densities : Densities
  /-- The code page of each table slot. -/
  tables : Vector Nat 4
  activeTable : Fin 4
  charMap : CharMap
  horizontalTabs : List Float
  verticalTabs : VerticalTabs
  /-- The font that follows from pitch and style. -/
  font : Font

namespace Registers

/-- The font that pitch, point size and style ask for.

Characters start at 10.5 points and shrink with the pitch. Condensed characters of fixed pitch go
to 17.14 or 20 to the inch, proportional ones to half their width; double width and height double
the size; a point size set apart replaces all of this; scripts take two thirds of it. -/
def wantedFont (r : Registers) : Font :=
  let style := r.style
  let h : Float := 10.5
  let v : Float := 10.5
  let cpi := r.cpi
  let (h, v, cpi) :=
    if r.multipoint then (r.multiPoints, r.multiPoints, r.multiCpi)
    else
      let (h, v) := if style.condensed then (h, v) else (h * (10.0 / r.cpi), v * (10.0 / r.cpi))
      let (h, v, cpi) :=
        if style.proportional then (if style.condensed then h / 2.0 else h, v, cpi)
        else if style.condensed && r.cpi == 10.0 then (h * (10.0 / 17.14), v, 17.14)
        else if style.condensed && r.cpi == 12.0 then (h * (10.0 / 20.0), v * (10.0 / 12.0), 20.0)
        else (h, v, cpi)
      let (h, cpi) := if style.wide || style.wideLine then (h * 2.0, cpi / 2.0) else (h, cpi)
      let v := if style.tall then v * 2.0 else v
      (h, v, cpi)
  let (h, v, cpi) :=
    if style.script then (h * (2.0 / 3.0), v * (2.0 / 3.0), cpi / (2.0 / 3.0)) else (h, v, cpi)
  { typeface := r.typeface
    horizontalPoints := h
    verticalPoints := v
    cpi := cpi
    italic := style.italic || r.tables[r.activeTable] == 0 }

/-- Bring the font up to date. -/
def updateFont (r : Registers) : Registers :=
  { r with font := r.wantedFont }

/-- Tab stops every eight columns. -/
def defaultTabs (cpi : Float) : List Float :=
  (List.range TabAxis.horizontal.capacity).map fun i => Float.ofNat (i * 8) / cpi

/-- The settings at power-on, for paper of a size in inches. -/
def powerOn (width height : Float) : Registers :=
  updateFont
    { paperWidth := width
      paperHeight := height
      pageWidth := width
      pageHeight := height
      topMargin := 0.0
      bottomMargin := height
      leftMargin := 0.0
      rightMargin := width
      lineSpacing := 1.0 / 6.0
      cpi := 10.0
      style := {}
      score := .none
      ink := .black
      quality := .letter
      typeface := .roman
      extraSpacing := 0.0
      motionIndex := none
      unit := none
      multipoint := false
      multiCpi := 0.0
      multiPoints := 0.0
      msb := none
      printUpper := true
      densities := {}
      tables := #v[0, 437, 437, 437]
      activeTable := 1
      charMap := CodePage.charMap 437
      horizontalTabs := defaultTabs 10.0
      verticalTabs := .unset
      font := {} }

/-- The settings as at power-on, for the same paper. -/
def restore (r : Registers) : Registers :=
  powerOn r.paperWidth r.paperHeight

/-! ## Distances -/

/-- The way from character to character at fixed pitch. -/
def fixedAdvance (r : Registers) : Float :=
  r.motionIndex.getD (1.0 / r.font.cpi)

/-- The unit of absolute horizontal positions. -/
def absoluteUnit (r : Registers) : Float :=
  r.unit.getD (1.0 / 60.0)

/-- The unit of relative horizontal positions. -/
def relativeUnit (r : Registers) : Float :=
  r.unit.getD (match r.quality with
    | .draft => 1.0 / 120.0
    | .letter => 1.0 / 180.0)

/-- The unit of vertical positions. -/
def verticalUnit (r : Registers) : Float :=
  r.unit.getD (1.0 / 360.0)

/-! ## Character tables -/

/-- Make a table slot active. The map is built afresh from the code page of the slot; there are four
slots, and a request for another one changes nothing. -/
def selectTable (r : Registers) (slot : Nat) : Registers :=
  if h : slot < 4 then
    { r with activeTable := ⟨slot, h⟩, charMap := CodePage.charMap r.tables[slot] }
  else r

/-- Put the code page of a selector into a slot; none where either is out of range. -/
def assignTable? (r : Registers) (slot : Nat) (selector : UInt8) : Option Registers :=
  match CodePage.ofSelector? selector with
  | none => none
  | some page =>
    if h : slot < 4 then
      let r := { r with tables := r.tables.set slot page }
      some (if slot = r.activeTable.val then { r with charMap := CodePage.charMap page } else r)
    else none

/-- The character of a byte in the active table. -/
def translate (r : Registers) (byte : UInt8) : Char :=
  r.charMap.get ⟨byte.toNat, byte.toNat_lt⟩

/-! ## Tab stops -/

/-- Replace the tab stops by columns at the current pitch or lines at the current spacing. -/
def setTabs (r : Registers) (axis : TabAxis) (stops : List UInt8) : Registers :=
  let stops := stops.take axis.capacity
  match axis with
  | .horizontal =>
    { r with horizontalTabs := stops.map fun column => Float.ofNat column.toNat / r.cpi }
  | .vertical =>
    { r with verticalTabs := .stops (stops.map fun line => Float.ofNat line.toNat * r.lineSpacing) }

/-- The multiples of a step that stay below a limit, as many as a list of stops can hold. -/
def multiples (axis : TabAxis) (step limit : Float) : List Float :=
  ((List.range axis.capacity).map fun i => Float.ofNat (i + 1) * step).takeWhile (· < limit)

/-- Set tab stops every `n` columns or lines; no columns or lines cancel them. -/
def setTabEvery (r : Registers) (axis : TabAxis) (n : Nat) : Registers :=
  match axis with
  | .horizontal =>
    { r with
      horizontalTabs :=
        if n = 0 then [] else multiples .horizontal (Float.ofNat n / r.cpi) r.pageWidth }
  | .vertical =>
    { r with
      verticalTabs := .stops
        (if n = 0 then [] else multiples .vertical (Float.ofNat n * r.lineSpacing) r.pageHeight) }

/-- The first horizontal stop to the right of a place and left of the right margin. -/
def nextHorizontalTab? (r : Registers) (x : Float) : Option Float :=
  r.horizontalTabs.find? fun stop => stop > x && stop < r.rightMargin

/-- The first vertical stop below a place. -/
def nextVerticalTab? (r : Registers) (y : Float) : Option Float :=
  match r.verticalTabs with
  | .stops positions => positions.find? fun stop => stop > y
  | .unset => none

/-! ## Lines and bytes -/

/-- At the end of a line double width for the line is over. -/
def endLine (r : Registers) : Registers :=
  if r.style.wideLine then updateFont { r with style.wideLine := false } else r

/-- A byte with its highest bit forced, where that is asked for. -/
def forceMsb (r : Registers) (byte : UInt8) : UInt8 :=
  match r.msb with
  | some false => byte &&& 0x7F
  | some true => byte ||| 0x80
  | none => byte

end Registers

end PinPrinter
