import PinPrinter.Command
import PinPrinter.Registers

/-! # Instructions

What a complete command asks for, with its parameters read. A switch parameter is off, on, or
neither of the two; commands that have no effect on a sheet ask for nothing.
-/

namespace PinPrinter

/-- Where the density of a bit image comes from. -/
inductive DensitySource where
  | given (density : UInt8)
  | assigned (key : DensityKey)
  deriving DecidableEq, Repr

/-- What a command asks for. -/
inductive Instruction where
  /-- Everything as at power-on. -/
  | restart
  /-- Line spacing in parts of an inch. -/
  | lineSpacing (count perInch : Nat)
  /-- Line spacing made positive. -/
  | forwardSpacing
  /-- Page length in lines. -/
  | pageLines (lines : Nat)
  /-- Page length in inches. -/
  | pageInches (inches : Nat)
  /-- Page length in units. -/
  | pageUnits (count : Nat)
  /-- Top and bottom margin in units. -/
  | pageFormat (top bottom : Nat)
  /-- Bottom margin in lines. -/
  | bottomMargin (lines : Nat)
  /-- No top and bottom margin. -/
  | cancelMargins
  | rightMargin (column : Nat)
  | leftMargin (column : Nat)
  /-- The unit of positions, in 1/3600 inch. -/
  | defineUnit (count : Nat)
  | absoluteX (count : Nat)
  | relativeX (count : Int)
  | absoluteY (count : Nat)
  | relativeY (count : Int)
  /-- The way from character to character, in 1/360 inch. -/
  | motionIndex (count : Nat)
  /-- Space after every character. -/
  | extraSpace (count : Nat)
  | skipColumns (count : Nat)
  | skipLines (count : Nat)
  /-- Down by 1/180 inches. -/
  | advance (count : Nat)
  /-- Up by 1/216 inches. -/
  | reverse (count : Nat)
  | reverseLine
  | topOfSheet
  | ejectSheet
  /-- Tab stops at equal distances. -/
  | tabEvery (axis : TabAxis) (count : Nat)
  /-- A fixed pitch in characters to the inch. -/
  | pitch (cpi : Nat)
  /-- Pitch and the first style flags in one byte. -/
  | masterSelect (bits : UInt8)
  /-- Pitch and point size set apart from the style. -/
  | pitchAndPoint (pitch halfPoints : Nat)
  | proportional (on : Option Bool)
  | letterQuality (on : Option Bool)
  | wideLine
  | condensed
  | bold (on : Bool)
  | doubleStrike (on : Bool)
  | italic (on : Bool)
  | underline (on : Bool)
  /-- A kind of score line at a place: under, through or over the characters. -/
  | score (line : Score) (place : Nat)
  /-- Raised or lowered characters. -/
  | script (raised : Option Bool)
  | cancelScript
  | wide (on : Option Bool)
  | tall (on : Bool)
  | ink (ink : Ink)
  | typeface (typeface : Option Typeface)
  /-- The active table slot; none selects the active one again. -/
  | selectTable (slot : Option (Fin 4))
  | assignTable (slot : Nat) (selector : UInt8)
  | nationalSet (selector : UInt8)
  | msb (bit : Option Bool)
  | printUpper (on : Bool)
  /-- The next byte is a character. -/
  | printNext
  | image (density : DensitySource) (columns : Nat)
  | reassign (key : DensityKey) (density : UInt8)
  | nothing
  deriving DecidableEq, Repr

namespace Instruction

/-- A switch parameter, as a number or as a digit. -/
def switch? (n : UInt8) : Option Bool :=
  match n.toNat with
  | 0 | 0x30 => some false
  | 1 | 0x31 => some true
  | _ => none

/-- A table slot, as a number or as a digit. -/
def slot? (n : UInt8) : Option (Fin 4) :=
  let slot := if '0'.toNat ≤ n.toNat then n.toNat - '0'.toNat else n.toNat
  if h : slot < 4 then some ⟨slot, h⟩ else none

/-- The image command that a letter names. -/
def densityKey? (n : UInt8) : Option DensityKey :=
  match Char.ofNat n.toNat with
  | 'K' => some .k
  | 'L' => some .l
  | 'Y' => some .y
  | 'Z' => some .z
  | _ => none

/-- A two-byte number read as a signed one. -/
def signed (n : Nat) : Int :=
  if n < 32768 then n else (n : Int) - 65536

/-- What a command introduced by `ESC` asks for. -/
def ofEsc (opcode : UInt8) (params : Array UInt8) : Instruction :=
  let p (i : Nat) : UInt8 := params[i]?.getD 0
  let word (i : Nat) : Nat := Command.word params i
  match Char.ofNat opcode.toNat with
  | '@' => .restart
  | '0' => .lineSpacing 1 8
  | '1' => .lineSpacing 7 72
  | '2' => .lineSpacing 1 6
  | '3' => .lineSpacing (p 0).toNat 180
  | '+' => .lineSpacing (p 0).toNat 360
  | 'A' => .lineSpacing (p 0).toNat 60
  | 'C' => if p 0 = 0 then .pageInches (p 1).toNat else .pageLines (p 0).toNat
  | 'N' => .bottomMargin (p 0).toNat
  | 'O' => .cancelMargins
  | 'Q' => .rightMargin (p 0).toNat
  | 'l' => .leftMargin (p 0).toNat
  | '$' => .absoluteX (word 0)
  | '\\' => .relativeX (signed (word 0))
  | 'c' => .motionIndex (word 0)
  | ' ' => .extraSpace (p 0).toNat
  | 'f' =>
    match (p 0).toNat with
    | 0 => .skipColumns (p 1).toNat
    | 1 => .skipLines (p 1).toNat
    | _ => .nothing
  | 'e' =>
    match (p 0).toNat with
    | 0 => .tabEvery .horizontal (p 1).toNat
    | 1 => .tabEvery .vertical (p 1).toNat
    | _ => .nothing
  | 'J' => .advance (p 0).toNat
  | 'j' => .reverse (p 0).toNat
  | '\x0A' => .reverseLine
  | '\x0C' => .topOfSheet
  | '\x19' => if p 0 = 'R'.toUInt8 then .ejectSheet else .nothing
  | 'P' => .pitch 10
  | 'M' => .pitch 12
  | 'g' => .pitch 15
  | '!' => .masterSelect (p 0)
  | 'X' => .pitchAndPoint (p 0).toNat (word 1)
  | 'p' => .proportional (switch? (p 0))
  | 'x' => .letterQuality (switch? (p 0))
  | '\x0E' => .wideLine
  | '\x0F' => .condensed
  | 'E' => .bold true
  | 'F' => .bold false
  | 'G' => .doubleStrike true
  | 'H' => .doubleStrike false
  | '4' => .italic true
  | '5' => .italic false
  | '-' =>
    match switch? (p 0) with
    | some on => .underline on
    | none => .nothing
  | 'S' => .script (switch? (p 0))
  | 'T' => .cancelScript
  | 'W' => .wide (switch? (p 0))
  | 'w' => tallSwitch (p 0)
  | 'r' => .ink (Ink.ofSelector (p 0))
  | 'k' => .typeface (Typeface.ofNumber? (p 0))
  | 't' => .selectTable (slot? (p 0))
  | 'R' => .nationalSet (p 0)
  | '#' => .msb none
  | '=' => .msb (some false)
  | '>' => .msb (some true)
  | '6' => .printUpper true
  | '7' => .printUpper false
  | '^' => .printNext
  | 'K' => .image (.assigned .k) (word 0)
  | 'L' => .image (.assigned .l) (word 0)
  | 'Y' => .image (.assigned .y) (word 0)
  | 'Z' => .image (.assigned .z) (word 0)
  | '*' => .image (.given (p 0)) (word 1)
  | '?' =>
    match densityKey? (p 0) with
    | some key => .reassign key (p 1)
    | none => .nothing
  | _ => .nothing
where
  /-- Double height has no effect for a parameter that is no switch. -/
  tallSwitch (n : UInt8) : Instruction :=
    match switch? n with
    | some on => .tall on
    | none => .nothing

/-- What a command introduced by `FS` asks for. -/
def ofFs (opcode : UInt8) (params : Array UInt8) : Instruction :=
  let p (i : Nat) : UInt8 := params[i]?.getD 0
  match Char.ofNat opcode.toNat with
  | '2' => .lineSpacing 1 6
  | '3' => .lineSpacing (p 0).toNat 360
  | 'A' => .lineSpacing (p 0).toNat 60
  | 'F' => .forwardSpacing
  | '4' => .italic true
  | '5' => .italic false
  | 'V' => ofEsc.tallSwitch (p 0)
  | 'C' => .typeface (Typeface.ofNumber? (p 0))
  | 'I' => .selectTable (slot? (p 0))
  | 'Z' => .image (.given 40) (Command.word params 0)
  | _ => .nothing

/-- What an extended command asks for. Its first two parameters are the length of the others. -/
def ofExtended (opcode : UInt8) (params : Array UInt8) : Instruction :=
  let p (i : Nat) : UInt8 := params[i]?.getD 0
  let word (i : Nat) : Nat := Command.word params i
  match Char.ofNat opcode.toNat with
  | 'C' => if p 0 = 0 then .nothing else .pageUnits (word 2)
  | 'c' => .pageFormat (word 2) (word 4)
  | 'U' => if p 2 = 0 then .nothing else .defineUnit (p 2).toNat
  | 'V' => .absoluteY (word 2)
  | 'v' => .relativeY (signed (word 2))
  | '-' => .score (Score.ofNumber (p 4)) (p 3).toNat
  | 't' => .assignTable (p 2).toNat (p 3)
  | _ => .nothing

/-- What a command asks for. -/
def ofCommand (c : Command) (params : Array UInt8) : Instruction :=
  match c.introducer with
  | .esc => ofEsc c.opcode params
  | .fs => ofFs c.opcode params
  | .extended => ofExtended c.opcode params

end Instruction

namespace Registers

/-! ## Page format -/

/-- Make the page as long as given, if the length is positive. -/
def setPageHeight (r : Registers) (height : Float) : Registers :=
  if height > 0.0 then { r with pageHeight := height, bottomMargin := height } else r

/-- The bottom margin `lines` lines above the end of the page, if the page has room for it. -/
def setBottomMargin (r : Registers) (lines : Nat) : Registers :=
  let margin := Float.ofNat lines * r.lineSpacing
  if 0 < lines ∧ margin < r.pageHeight then { r with bottomMargin := r.pageHeight - margin } else r

/-- The right margin behind a column, if that is right of the left margin. -/
def setRightMargin (r : Registers) (column : Nat) : Registers :=
  let right := (Float.ofNat column - 1.0) / r.cpi
  if 0 < column ∧ right > r.leftMargin then
    { r with rightMargin := if r.pageWidth < right then r.pageWidth else right }
  else r

/-- The place of the left margin in front of a column. -/
def leftMarginAt (r : Registers) (column : Nat) : Float :=
  (Float.ofNat (max column 1) - 1.0) / r.cpi

/-- The left margin in front of a column, if that is left of the right margin. -/
def setLeftMargin (r : Registers) (column : Nat) : Registers :=
  let left := r.leftMarginAt column
  if left < r.rightMargin then { r with leftMargin := left } else r

/-- Margins given in units are taken as far as they lie on the page. -/
def setPageFormat (r : Registers) (top bottom : Nat) : Registers :=
  match r.unit with
  | none => r
  | some unit =>
    let top := Float.ofNat top * unit
    let bottom := Float.ofNat bottom * unit
    if top ≥ bottom then r
    else
      let r := if top < r.pageHeight then { r with topMargin := top } else r
      if bottom < r.pageHeight then { r with bottomMargin := bottom } else r

/-! ## Pitch and style -/

/-- Change the style and bring the font up to date. -/
def restyle (r : Registers) (change : Style → Style) : Registers :=
  updateFont { r with style := change r.style }

/-- A fixed pitch ends every other way of spacing characters. -/
def setPitch (r : Registers) (cpi : Float) : Registers :=
  updateFont { r with cpi := cpi, motionIndex := none, multipoint := false }

/-- Pitch and the first style flags in one byte. -/
def masterSelect (r : Registers) (bits : UInt8) : Registers :=
  updateFont
    { r with
      cpi := if bits.toNat.testBit 0 then 12.0 else 10.0
      style := r.style.master bits
      score := if bits.toNat.testBit 7 then .single else r.score
      motionIndex := none
      multipoint := false }

/-- The smallest and the largest point size that can be set apart. -/
def pointLimits : Float × Float := (8.0, 32.0)

/-- A point size kept within its limits. -/
def limitPoints (points : Float) : Float :=
  let points := if points < pointLimits.1 then pointLimits.1 else points
  if pointLimits.2 < points then pointLimits.2 else points

/-- Pitch and point size set apart: pitch 1 is proportional, from 5 on it divides 360. -/
def setPitchAndPoint (r : Registers) (pitch halfPoints : Nat) : Registers :=
  let cpi := if r.multiCpi == 0.0 then r.cpi else r.multiCpi
  let points := if r.multiPoints == 0.0 then 10.5 else r.multiPoints
  updateFont
    { r with
      multipoint := true
      multiCpi := if pitch ≠ 1 ∧ 5 ≤ pitch then 360.0 / Float.ofNat pitch else cpi
      style := if pitch = 1 then { r.style with proportional := true } else r.style
      multiPoints :=
        if 0 < halfPoints then limitPoints (Float.ofNat halfPoints / 2.0) else points }

/-- Proportional spacing needs letter quality; any attempt ends a pitch set apart. -/
def setProportional (r : Registers) (on : Option Bool) : Registers :=
  updateFont
    { r with
      style := match on with
        | some on => { r.style with proportional := on }
        | none => r.style
      quality := if on = some true then .letter else r.quality
      multipoint := false
      motionIndex := none }

/-- The print quality; any attempt ends a motion index. -/
def setLetterQuality (r : Registers) (on : Option Bool) : Registers :=
  updateFont
    { r with
      quality := match on with
        | some true => .letter
        | some false => .draft
        | none => r.quality
      motionIndex := none }

/-- Double width up to the end of the line, refused while pitch and point are set apart. -/
def beginWideLine (r : Registers) : Registers :=
  if r.multipoint then r
  else updateFont { r with motionIndex := none, style := { r.style with wideLine := true } }

/-- Condensed printing, refused at 15 to the inch and while pitch and point are set apart. -/
def beginCondensed (r : Registers) : Registers :=
  if r.multipoint || r.cpi == 15.0 then r
  else updateFont { r with motionIndex := none, style := { r.style with condensed := true } }

/-- The end of condensed characters. -/
def cancelCondensed (r : Registers) : Registers :=
  { r with motionIndex := none }.restyle fun s => { s with condensed := false }

/-- The end of double width before the line ends. -/
def cancelWideLine (r : Registers) : Registers :=
  { r with motionIndex := none }.restyle fun s => { s with wideLine := false }

/-- Double width, refused while pitch and point are set apart. -/
def setWide (r : Registers) (on : Option Bool) : Registers :=
  if r.multipoint then r
  else
    let r := { r with motionIndex := none }
    match on with
    | some on => r.restyle fun s => { s with wide := on }
    | none => r

/-- Double height, refused while pitch and point are set apart. -/
def setTall (r : Registers) (on : Bool) : Registers :=
  if r.multipoint then r else r.restyle fun s => { s with tall := on }

/-- Space after every character, in the units of the quality; refused while pitch and point are
set apart. -/
def setExtraSpace (r : Registers) (count : Nat) : Registers :=
  if r.multipoint then r
  else
    let perInch : Float := match r.quality with
      | .draft => 120.0
      | .letter => 180.0
    updateFont { r with extraSpacing := Float.ofNat count / perInch, motionIndex := none }

/-- Underlining draws a single line. -/
def setUnderline (r : Registers) (on : Bool) : Registers :=
  let r := if on then { r with score := .single } else r
  r.restyle fun s => { s with underline := on }

/-- One kind of score line at one place instead of all others. -/
def setScore (r : Registers) (line : Score) (place : Nat) : Registers :=
  let r := { r with score := line }
  r.restyle fun s =>
    let s := s.withoutScores
    if line = .none then s
    else
      match place with
      | 1 => { s with underline := true }
      | 2 => { s with strikethrough := true }
      | 3 => { s with overscore := true }
      | _ => s

/-- Raised and lowered characters exclude each other. -/
def setScript (r : Registers) (raised : Option Bool) : Registers :=
  r.restyle fun s =>
    match raised with
    | some raised => { s with superscript := raised, subscript := !raised }
    | none => s

/-! ## Obeying -/

/-- What an instruction does to the settings. -/
def obey (r : Registers) : Instruction → Registers
  | .restart => r.restore
  | .lineSpacing count perInch => { r with lineSpacing := Float.ofNat count / Float.ofNat perInch }
  | .forwardSpacing => { r with lineSpacing := r.lineSpacing.abs }
  | .pageLines lines => r.setPageHeight (Float.ofNat lines * r.lineSpacing)
  | .pageInches inches => { r with topMargin := 0.0 }.setPageHeight (Float.ofNat inches)
  | .pageUnits count =>
    match r.unit with
    | none => r
    | some unit =>
      let height := Float.ofNat count * unit
      if height > 0.0 then { r.setPageHeight height with topMargin := 0.0 } else r
  | .pageFormat top bottom => r.setPageFormat top bottom
  | .bottomMargin lines => r.setBottomMargin lines
  | .cancelMargins => { r with topMargin := 0.0, bottomMargin := r.pageHeight }
  | .rightMargin column => r.setRightMargin column
  | .leftMargin column => r.setLeftMargin column
  | .defineUnit count => { r with unit := some (Float.ofNat count / 3600.0) }
  | .motionIndex count =>
    { r with motionIndex := some (Float.ofNat count / 360.0), extraSpacing := 0.0 }
  | .extraSpace count => r.setExtraSpace count
  | .tabEvery axis count => r.setTabEvery axis count
  | .pitch cpi => r.setPitch (Float.ofNat cpi)
  | .masterSelect bits => r.masterSelect bits
  | .pitchAndPoint pitch halfPoints => r.setPitchAndPoint pitch halfPoints
  | .proportional on => r.setProportional on
  | .letterQuality on => r.setLetterQuality on
  | .wideLine => r.beginWideLine
  | .condensed => r.beginCondensed
  | .bold on => r.restyle fun s => { s with bold := on }
  | .doubleStrike on => r.restyle fun s => { s with doubleStrike := on }
  | .italic on => r.restyle fun s => { s with italic := on }
  | .underline on => r.setUnderline on
  | .score line place => r.setScore line place
  | .script raised => r.setScript raised
  | .cancelScript => r.restyle fun s => { s with superscript := false, subscript := false }
  | .wide on => r.setWide on
  | .tall on => r.setTall on
  | .ink ink => { r with ink := ink }
  | .typeface typeface => updateFont { r with typeface := typeface.getD r.typeface }
  | .selectTable slot => (r.selectTable (slot.getD r.activeTable)).updateFont
  | .assignTable slot selector => ((r.assignTable? slot selector).getD r).updateFont
  | .nationalSet selector =>
    { r with charMap := (NationalSet.install? r.charMap selector).getD r.charMap }
  | .msb bit => { r with msb := bit }
  | .printUpper on => { r with printUpper := on }
  | .reassign key density => { r with densities := r.densities.set key density }
  | .absoluteX _ | .relativeX _ | .absoluteY _ | .relativeY _ | .skipColumns _ | .skipLines _
  | .advance _ | .reverse _ | .reverseLine | .topOfSheet | .ejectSheet | .printNext | .image _ _
  | .nothing => r

end Registers

end PinPrinter
