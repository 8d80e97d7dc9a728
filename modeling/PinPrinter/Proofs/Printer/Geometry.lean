import PinPrinter.Proofs.Leaning
import PinPrinter.Proofs.Printer.Restart
import PinPrinter.Proofs.Registers.Motion

/-! # The place of the pen

The pen is moved by instructions and control codes, and by what is printed: a character, a column of
an image, a bar code. Printing moves it to the right only, and a character that the next one could
not follow sends it to the next line. So in every printer in use the side margins are in order and
on the page, the pen is not left of the left margin, and not above the top margin.
-/

namespace PinPrinter

open Binary64

/-! ## How far printing goes -/

/-- What a face tells is in order, so that its characters go on. -/
structure OutlineFace.Lawful (face : OutlineFace) : Prop where
  /-- An em square has as many units as a font file allows. -/
  unitsPerEm : ∀ units ∈ face.unitsPerEm, Within 16.0 16384.0 units
  /-- The whole height is one unit at the least. -/
  unscaledHeight : Within 1.0 65535.0 face.unscaledHeight
  /-- No character goes back, and none goes on by more than 65535 units of the scale. -/
  advance : ∀ scale : OutlineScale, Within 0.0 4294967296.0 scale.x →
    ∀ c, Within 0.0 281474976710656.0 (face.advance scale c)

namespace OutlineFace

variable {face : OutlineFace} {font : Font} {dpi : Nat}

theorem Lawful.within_scale (lawful : face.Lawful) (number : IsNumber font.horizontalPoints)
    (fine : dpi ≤ 65535) : Within 0.0 4294967296.0 (face.scale font dpi).x := by
  have units : Within 16.0 16384.0 (face.unitsPerEm.getD usualUnits) := by
    cases told : face.unitsPerEm with
    | none => decide
    | some units => exact lawful.unitsPerEm units told
  have share : Within 0.0 65535.0 (face.unscaledHeight / face.unitsPerEm.getD usualUnits) :=
    lawful.unscaledHeight.div units (by decide) (by decide)
  exact (Font.within_pixels number fine).mul share (by decide) (by decide)

theorem advance_glyph (face : OutlineFace) (font : Font) (dpi : Nat) (c : Char) :
    (face.glyph font dpi c).advance = face.advance (face.scale font dpi) c := by
  unfold glyph
  dsimp only
  split <;> rfl

end OutlineFace

namespace Font

theorem advance_upright (font : Font) (dpi : Nat) (c : Char) :
    (font.upright dpi c).advance = Float.ofNat (font.cellWidth dpi) := by
  unfold upright
  split <;> rfl

/-- A glyph is as wide leaning as it is upright. -/
theorem advance_render (font : Font) (face : Option OutlineFace) (dpi : Nat) (c : Char) :
    (font.render face dpi c).advance =
      match face with
      | some face => face.advance (face.scale font dpi) c
      | none => Float.ofNat (font.cellWidth dpi) := by
  have leaning (g : Glyph) :
      (if font.italic then (g.sheared? Glyph.italicLean).getD g else g).advance = g.advance := by
    rcases g.eq_or_eq_shifted_of_italic font.italic with same | moved
    · rw [same]
    · rw [moved, Glyph.advance_shifted]
  cases face with
  | none => exact (leaning _).trans (font.advance_upright dpi c)
  | some face => exact (leaning _).trans (face.advance_glyph font dpi c)

theorem cellWidth_le {font : Font} (number : IsNumber font.horizontalPoints) {dpi : Nat}
    (fine : dpi ≤ 65535) : font.cellWidth dpi ≤ 65535 := by
  have half : Within 0.0 65535.0 (font.horizontalPixels dpi * 0.5) :=
    (within_pixels number fine).mul (by decide : Within 0.5 0.5 0.5) (by decide) (by decide)
  exact Nat.max_le.mpr ⟨by decide, nearest_le_of_within half⟩

/-- Every character goes on, in the built-in face and in faces that are in order. -/
theorem within_advance_render {font : Font} (number : IsNumber font.horizontalPoints)
    {face : Option OutlineFace} (lawful : ∀ outlines ∈ face, outlines.Lawful) {dpi : Nat}
    (fine : dpi ≤ 65535) (c : Char) :
    Within 0.0 281474976710656.0 (font.render face dpi c).advance := by
  rw [advance_render]
  cases face with
  | none => exact within_ofNat (Nat.zero_le _) (cellWidth_le number fine) (by decide)
  | some face =>
    have face := lawful face rfl
    exact face.advance _ (face.within_scale number fine) c

end Font

/-- What all the faces of outlines tell is in order. -/
def TypeCase.Lawful (case : TypeCase) : Prop :=
  ∀ file, ∀ outlines ∈ case.face file, outlines.Lawful

theorem BitImage.within_columnWidth {m : UInt8} {d : Density}
    (known : Density.ofNumber? m = some d) : Within 0.0 1.0 d.columnWidth := by
  unfold Density.ofNumber? at known
  split at known <;> cases known <;> decide

namespace Barcode

variable {b : Barcode}

/-- The widths that a request for a bar code is kept within. -/
theorem bounds_of_parse {data : List UInt8} (parsed : parse data = .ok b) :
    (2 ≤ b.moduleWidth ∧ b.moduleWidth ≤ 5) ∧ -3 ≤ b.spaceAdjustment ∧ b.spaceAdjustment ≤ 3 := by
  unfold parse at parsed
  split at parsed
  · split at parsed
    · cases parsed
    · cases parsed
      dsimp only
      omega
  · cases parsed

theorem within_barWidth (narrow : b.moduleWidth ≤ 5) : Within 0.0 0.5 b.barWidth := by
  have modules : Within 0.0 5.0 (Float.ofNat b.moduleWidth) :=
    within_ofNat (Nat.zero_le _) narrow (by decide)
  have parts : Within 180.0 180.0 180.0 := by decide
  exact modules.div parts (by decide) (by decide)

theorem within_spaceWidth (narrow : b.moduleWidth ≤ 5) (least : -3 ≤ b.spaceAdjustment)
    (most : b.spaceAdjustment ≤ 3) : Within 0.0 1.0 b.spaceWidth := by
  have adjustment : Within (-0.5) 0.5 (Float.ofInt b.spaceAdjustment / 360.0) := by
    generalize b.spaceAdjustment = adjustment at least most
    interval_cases adjustment <;> decide
  have space : Within (-0.5) 1.0 (b.barWidth + Float.ofInt b.spaceAdjustment / 360.0) :=
    (within_barWidth narrow).add adjustment (by decide)
  unfold spaceWidth
  dsimp only
  split
  · decide
  · rename_i positive
    exact ⟨le_of_not_lt space.number (by decide) positive, space.most, by decide, by decide⟩

/-- A symbol is drawn to the right. -/
theorem within_reach {data : List UInt8} (parsed : parse data = .ok b) {x : Float}
    (start : Within 0.0 farthest x) (modules : Modules) :
    Within x farthest (b.reach x modules) := by
  obtain ⟨⟨-, narrow⟩, least, most⟩ := bounds_of_parse parsed
  have bar : Within 0.0 1.0 b.barWidth :=
    (within_barWidth narrow).weaken (by decide)
  have space := within_spaceWidth narrow least most
  have onward {z : Float} (place : Within x farthest z) :
      Within x farthest (b.reach z modules) := by
    induction modules generalizing z with
    | nil => exact place
    | cons module rest ih =>
      cases module with
      | true => exact ih (place.advance start.least bar)
      | false => exact ih (place.advance start.least space)
  exact onward ⟨le_refl start.number, start.most, start.finite, start.high⟩

end Barcode

/-! ## Printing keeps the pen within the margins -/

namespace Paper

variable {r : Registers} {p : Paper} {config : Config} {face : String → Option OutlineFace}

theorem within_advanceOf (sound : r.Sound) {g : Glyph} {dpi : Nat}
    (columns : Within 0.0 281474976710656.0 g.advance) (pixels : 0 < dpi) (fine : dpi ≤ 65535) :
    Within 0.0 36893488147419103232.0 (advanceOf r g dpi) := by
  have way : Within 0.0 281474976710656.0
      (if r.style.proportional then g.advance / Float.ofNat dpi else r.fixedAdvance) := by
    split
    · have inch : Within 1.0 65535.0 (Float.ofNat dpi) :=
        within_ofNat pixels fine (by decide)
      exact columns.div inch (by decide) (by decide)
    · exact (Registers.isStep_fixedAdvance sound.steps sound.font).weaken (by decide)
  exact way.add sound.steps.extraSpacing (by decide)

variable (sound : r.Sound) (placed : p.pen.Placed r)

include sound placed

theorem placed_printByte (fits : p.Fits config face) (lawful : p.glyphs.Lawful)
    (pixels : 0 < config.dpi.toNat) (byte : UInt8) : (p.printByte r byte).pen.Placed r := by
  obtain ⟨sheet, pen, glyphs, outbox, artifacts⟩ := p
  have dpi : sheet.dpi = config.dpi.toNat := congrArg Sheet.dpi fits.sheet
  have fine : config.dpi.toNat ≤ 65535 := Nat.le_of_lt_succ config.dpi.toNat_lt
  have number : IsNumber r.font.horizontalPoints := by
    rw [sound.font]
    exact (Registers.within_horizontalPoints_wantedFont sound.steps).number
  have columns : Within 0.0 281474976710656.0
      (glyphs.take r.font (characterOf r byte)).2.advance := by
    rw [fits.glyphs.glyph_take]
    exact Font.within_advance_render number (lawful _) (fits.dpi ▸ fine) _
  have advance := within_advanceOf sound columns (dpi ▸ pixels) (dpi ▸ fine)
  unfold printByte stamp
  dsimp only
  rw [pen_follow]
  exact Registers.placed_wrap sound placed advance

theorem placed_printColumn {density : BitImage.Density} {m : UInt8}
    (known : BitImage.Density.ofNumber? m = some density) (column : Array UInt8) :
    (p.printColumn r (some density) column).pen.Placed r := by
  rw [pen_printColumn]
  exact ⟨placed.x.advance sound.frame.left_nonneg (BitImage.within_columnWidth known), placed.y⟩

theorem placed_printBarcode (data : List UInt8) : (p.printBarcode r data).pen.Placed r := by
  have start : Within 0.0 farthest p.pen.x :=
    ⟨le_trans sound.frame.left_nonneg placed.x.least, placed.x.most, by decide, placed.x.high⟩
  apply holds_printBarcode (motive := fun q => q.pen.Placed r) placed
  intro code modules parsed
  have reach := Barcode.within_reach parsed start modules
  have stop : Within 0.0 farthest (code.reach p.pen.x modules) :=
    ⟨le_trans start.least reach.least, reach.most, by decide, reach.high⟩
  have width := sub_nonneg stop.finite start.finite reach.least
  have most := sub_le_self stop.finite start.finite start.least
  have finite := isFinite_of_le width (le_trans most stop.most) start.low start.high
  have ahead := le_add_of_nonneg start.finite finite width
  simp only [withSymbol, Barcode.draw_eq]
  exact ⟨⟨le_trans placed.x.least ahead, add_sub_le start stop reach.least, placed.x.low,
    placed.x.high⟩, placed.y⟩

end Paper

/-! ## The density of an image -/

namespace Interpreter

variable {i : Interpreter}

/-- The density of the image columns that are received is one of the known ones. -/
def KnownImage (i : Interpreter) : Prop :=
  ∀ density ∈ i.image, ∃ m, BitImage.Density.ofNumber? m = some density

theorem knownImage_withRegisters (r : Registers) : KnownImage (withRegisters r) :=
  nofun

theorem KnownImage.obey (known : i.KnownImage) (instruction : Instruction) :
    (i.obey instruction).KnownImage := by
  cases instruction with
  | restart => exact knownImage_withRegisters _
  | image source columns => exact fun density begun => ⟨_, begun⟩
  | _ => exact known

theorem KnownImage.receive (known : i.KnownImage) (autofeed : Bool) (byte : UInt8) :
    (i.receive autofeed byte).1.KnownImage := by
  rcases fed : i.reader.feed (i.registers.forceMsb byte) with ⟨reader, _ | action⟩
  · rw [receive_silent fed]
    exact known
  · have read : KnownImage { i with reader := reader } := known
    rw [receive_action fed]
    cases action with
    | command c params => exact read.obey _
    | control code => exact known
    | tabs axis stops => exact known
    | print byte => exact known
    | payload c data => exact known
    | column bytes => exact known

end Interpreter

namespace Printer

variable {p : Printer}

theorem Reachable.knownImage (reachable : p.Reachable) : p.interpreter.KnownImage :=
  reachable.interpreter (fun _ _ => Interpreter.knownImage_withRegisters _)
    (fun _ autofeed byte known => known.receive autofeed byte)
    (fun _ _ => Interpreter.knownImage_withRegisters _)

theorem Reachable.pixels (reachable : p.Reachable) : 0 < p.config.dpi.toNat := by
  obtain ⟨config, host, folder, start, events, started, rfl⟩ := (reachable_iff p).mp reachable
  have accepted := accepted_of_new started
  obtain rfl := eq_powerOn_of_new started
  rw [config_run]
  exact (Config.of_fault? accepted).1

/-! ## The pen of a printer in use -/

/-- A byte moves the pen within the margins as they are after it. -/
theorem placed_receive (reachable : p.Reachable) (lawful : p.paper.glyphs.Lawful)
    (placed : p.paper.pen.Placed p.registers) (now : Nat) (byte : UInt8) :
    (p.step (.byte now byte)).paper.pen.Placed (p.step (.byte now byte)).registers := by
  have sound : p.interpreter.registers.Sound := reachable.sound
  obtain ⟨-, fits⟩ := reachable.paper
  rcases fed : p.interpreter.reader.feed (p.interpreter.registers.forceMsb byte) with
    ⟨reader, _ | action⟩
  · rw [step_silent (Interpreter.receive_silent fed p.autofeed)]
    exact placed
  · rw [step_action (Interpreter.receive_action fed p.autofeed)]
    cases action with
    | print byte =>
      exact Paper.placed_printByte sound placed fits lawful reachable.pixels byte
    | control code =>
      have same := Registers.frame_control p.interpreter.registers p.autofeed code
      change (Paper.follow ..).pen.Placed _
      rw [Paper.pen_follow]
      exact Registers.placed_control (sound.control p.autofeed code)
        (Registers.placed_congr placed same) code
    | command c params =>
      let read : Interpreter := { p.interpreter with reader := reader }
      change Pen.Placed (read.obey (.ofCommand c params)).registers
        (p.paper.obey (read.obey (.ofCommand c params)).registers (.ofCommand c params)).pen
      rw [Interpreter.registers_obey, Paper.pen_obey]
      exact Registers.placed_obey sound placed (Instruction.inRange_ofCommand c params)
    | payload c data =>
      by_cases code : c = Command.barCode
      · simp only [Paper.act, if_pos code]
        exact Paper.placed_printBarcode sound placed data.toList
      · simp only [Paper.act, if_neg code]
        exact placed
    | column bytes =>
      change (Paper.printColumn _ _ p.interpreter.image bytes).pen.Placed _
      cases image : p.interpreter.image with
      | none => exact placed
      | some density =>
        obtain ⟨m, known⟩ := reachable.knownImage density image
        exact Paper.placed_printColumn sound placed known bytes
    | tabs axis stops =>
      have same := Registers.frame_setTabs p.interpreter.registers axis stops.toList
      exact Registers.placed_congr placed same

/-- Form feeds, resets and polls move the pen within the margins as well. -/
theorem placed_step (reachable : p.Reachable) (lawful : p.paper.glyphs.Lawful)
    (placed : p.paper.pen.Placed p.registers) (event : Event) :
    (p.step event).paper.pen.Placed (p.step event).registers := by
  have sound := reachable.sound
  have ejected : p.formFeed.paper.pen.Placed p.registers :=
    Registers.placed_turn sound (Registers.within_left sound)
  cases event with
  | byte now byte => exact placed_receive reachable lawful placed now byte
  | formFeed => exact ejected
  | reset => exact Registers.placed_home sound.restore
  | resetHard => exact Registers.placed_home sound.restore
  | poll now =>
    have same : (p.step (.poll now)).registers = p.registers :=
      congrArg Interpreter.registers (interpreter_step p (.poll now))
    rw [same]
    change (p.poll now).1.paper.pen.Placed p.registers
    rcases paper_poll p now with still | turned
    · rw [still]
      exact placed
    · rw [turned]
      exact ejected
  | finish => exact placed
  | autofeed on => exact placed
  | acknowledge => exact placed

/-- The faces are the ones that the printer was switched on with. -/
theorem Reachable.face_step (reachable : p.Reachable) (event : Event) :
    (p.step event).paper.glyphs.face = p.paper.glyphs.face :=
  (kept_step (Paper.kept_fits ..) reachable.paper.2 event).face

theorem Reachable.placed (reachable : p.Reachable) (lawful : p.paper.glyphs.Lawful) :
    p.paper.pen.Placed p.registers := by
  induction reachable with
  | new started =>
    have sound := sound_of_new started
    obtain rfl := eq_powerOn_of_new started
    exact Registers.placed_home sound
  | step earlier event ih =>
    unfold TypeCase.Lawful at lawful
    rw [earlier.face_step event] at lawful
    exact placed_step earlier lawful (ih lawful) event

/-- In a printer in use, whose faces of outlines are in order if it has any, the side margins are in
order and on the page, the pen is not left of the left margin, and it is not above the top
margin. -/
theorem pen_of_reachable (reachable : p.Reachable) (lawful : p.paper.glyphs.Lawful) :
    (0.0 ≤ p.registers.leftMargin ∧ p.registers.leftMargin < p.registers.rightMargin ∧
        p.registers.rightMargin ≤ p.registers.pageWidth) ∧
      p.registers.leftMargin ≤ p.paper.pen.x ∧
        0.0 ≤ p.registers.topMargin ∧ p.registers.topMargin ≤ p.paper.pen.y := by
  obtain ⟨x, y⟩ := reachable.placed lawful
  have frame := reachable.sound.frame
  exact ⟨⟨frame.left_nonneg, frame.left_lt_right, frame.right_le⟩, x.least, frame.top.least,
    y.least⟩

/-- A printer that has a face of outlines of a thousand units, of which a character takes six
hundred. Its left margin was moved beyond the pen, and it has then printed a character of
proportional style and a column of an image. -/
theorem pen_of_reachable_letter :
    let face : OutlineFace :=
      { unitsPerEm := some 1000.0
        unscaledHeight := 1000.0
        ascent := fun scale => scale.y / 1000.0 * 800.0
        height := fun scale => scale.y
        advance := fun scale _ => scale.x / 1000.0 * 600.0
        outline := fun _ _ => some ⟨0.0, -1.0, 1.0, 1.0, [⟨0, 0, 255⟩]⟩ }
    let host : Host :=
      { launch := fun _ _ => .error "no programs"
        date := "2024-02-29 12:30:00"
        face := fun _ file => if file = "roman.ttf" then some face else none }
    let margin : List UInt8 := [0x1B, 0x6C, 0x15, 0x1B, 0x70, 0x01, 0x41]
    let image : List UInt8 := [0x1B, 0x4B, 0x01, 0x00, 0xFF]
    let p := (powerOn .letter host {}).run ((margin ++ image).map (Event.byte 0))
    p.Reachable ∧ p.paper.glyphs.Lawful ∧
      face.advance (face.scale p.registers.font 360) 'A' = 31.5 ∧
      0.0 < p.registers.leftMargin ∧ p.registers.leftMargin < p.paper.pen.x ∧
      (0.0 ≤ p.registers.leftMargin ∧ p.registers.leftMargin < p.registers.rightMargin ∧
        p.registers.rightMargin ≤ p.registers.pageWidth) ∧
      p.registers.leftMargin ≤ p.paper.pen.x ∧
        0.0 ≤ p.registers.topMargin ∧ p.registers.topMargin ≤ p.paper.pen.y := by
  intro face host margin image p
  have inOrder : face.Lawful := by
    refine ⟨?_, by decide, fun scale inside c => ?_⟩
    · rintro units told
      cases told
      decide
    · have units : Within 0.0 4294967296.0 (scale.x / 1000.0) :=
        inside.div (by decide : Within 1000.0 1000.0 1000.0) (by decide) (by decide)
      exact units.mul (by decide : Within 600.0 600.0 600.0) (by decide) (by decide)
  have lawful : p.paper.glyphs.Lawful := by
    unfold TypeCase.Lawful
    rw [(fits_run .letter host {} _).face]
    intro file outlines told
    dsimp only [host] at told
    split at told
    · cases told
      exact inOrder
    · cases told
  have reachable : p.Reachable := (Reachable.new (new_letter host {})).run _
  have wide : face.advance (face.scale p.registers.font 360) 'A' = 31.5 := by decide +kernel
  have moved : 0.0 < p.registers.leftMargin := by decide +kernel
  have printed : p.registers.leftMargin < p.paper.pen.x := by decide +kernel
  exact ⟨reachable, lawful, wide, moved, printed, pen_of_reachable reachable lawful⟩

end Printer

end PinPrinter
