import PinPrinter.TypeCase

/-! # Glyphs from the case

What a glyph looks like follows from its character and the size of the font. The size is told apart
bit by bit, and the file of the typeface is a part of it. So a glyph that the type case has kept is
the one that would be drawn afresh, whatever has been taken from the case before. The case also
answers for the measures of a font and for outlines; a row of such requests gets the answers of
cases that have just been set up.
-/

namespace PinPrinter

namespace Font

/-- The bits of a floating-point number tell it from all others. -/
theorem eq_of_toBits {x y : Float} (same : x.toBits = y.toBits) : x = y := by
  obtain ⟨⟨bits, valid⟩⟩ := x
  obtain ⟨⟨other, _⟩⟩ := y
  obtain rfl : bits = other := same
  rfl

theorem pixels_of_size {first second : Font} (same : first.size = second.size) (dpi : Nat) :
    first.horizontalPixels dpi = second.horizontalPixels dpi ∧
      first.verticalPixels dpi = second.verticalPixels dpi := by
  obtain ⟨-, horizontal, vertical, -⟩ := TypeSize.mk.inj same
  rw [horizontalPixels, verticalPixels, eq_of_toBits horizontal, eq_of_toBits vertical]
  exact ⟨rfl, rfl⟩

theorem upright_of_size {first second : Font} (same : first.size = second.size) (dpi : Nat)
    (c : Char) : first.upright dpi c = second.upright dpi c := by
  obtain ⟨horizontal, vertical⟩ := pixels_of_size same dpi
  have cellWidth : first.cellWidth dpi = second.cellWidth dpi := by
    rw [cellWidth, cellWidth, horizontal]
  have lineHeight : first.lineHeight dpi = second.lineHeight dpi := by
    rw [lineHeight, lineHeight, vertical]
  have ascent : first.ascent dpi = second.ascent dpi := by
    rw [ascent, ascent, lineHeight]
  unfold upright
  rw [cellWidth, lineHeight, ascent]

theorem outlined_of_size {first second : Font} (same : first.size = second.size)
    (face : OutlineFace) (dpi : Nat) (c : Char) :
    face.glyph first dpi c = face.glyph second dpi c := by
  obtain ⟨horizontal, vertical⟩ := pixels_of_size same dpi
  have scale : face.scale first dpi = face.scale second dpi := by
    rw [OutlineFace.scale, OutlineFace.scale, horizontal, vertical]
  rw [OutlineFace.glyph, OutlineFace.glyph, scale]

/-- Fonts of one size draw the same glyphs, whatever their pitches and typefaces. -/
theorem render_of_size {first second : Font} (same : first.size = second.size)
    (face : Option OutlineFace) (dpi : Nat) (c : Char) :
    first.render face dpi c = second.render face dpi c := by
  have italic : first.italic = second.italic := (TypeSize.mk.inj same).2.2.2
  unfold render
  rw [italic]
  cases face with
  | none => simp only [upright_of_size same]
  | some face => simp only [outlined_of_size same]

end Font

namespace TypeCase

variable {case : TypeCase}

/-- Fonts of one size share their file, and so the face that they are drawn in. -/
theorem draw_of_size {first second : Font} (same : first.size = second.size) (case : TypeCase)
    (c : Char) : case.draw first c = case.draw second c := by
  have file : first.typeface.fontFile = second.typeface.fontFile := (TypeSize.mk.inj same).1
  rw [draw, draw, faceOf, faceOf, file, Font.render_of_size same]

/-- Every glyph in the case is the one that a font of its size draws. -/
def Faithful (case : TypeCase) : Prop :=
  ∀ font : Font, case.size = some font.size →
    ∀ c glyph, case.glyphs.lookup c = some glyph → glyph = case.draw font c

theorem faithful_of_glyphs_eq_nil (empty : case.glyphs = []) : case.Faithful := by
  intro font _ c glyph found
  rw [empty] at found
  cases found

@[simp] theorem dpi_prepare (case : TypeCase) (font : Font) :
    (case.prepare font).dpi = case.dpi := by
  unfold prepare
  split <;> rfl

@[simp] theorem face_prepare (case : TypeCase) (font : Font) :
    (case.prepare font).face = case.face := by
  unfold prepare
  split <;> rfl

@[simp] theorem draw_prepare (case : TypeCase) (font other : Font) (c : Char) :
    (case.prepare font).draw other c = case.draw other c := by
  simp only [draw, faceOf, dpi_prepare, face_prepare]

theorem size_prepare (case : TypeCase) (font : Font) :
    (case.prepare font).size = some font.size := by
  unfold prepare
  by_cases ready : case.size = some font.size
  · rwa [if_pos ready]
  · rw [if_neg ready]

theorem Faithful.prepare (faithful : case.Faithful) (font : Font) :
    (case.prepare font).Faithful := by
  unfold TypeCase.prepare
  by_cases ready : case.size = some font.size
  · rwa [if_pos ready]
  · rw [if_neg ready]
    exact faithful_of_glyphs_eq_nil rfl

@[simp] theorem dpi_take (case : TypeCase) (font : Font) (c : Char) :
    (case.take font c).1.dpi = case.dpi := by
  unfold take
  dsimp only
  split <;> simp

@[simp] theorem face_take (case : TypeCase) (font : Font) (c : Char) :
    (case.take font c).1.face = case.face := by
  unfold take
  dsimp only
  split <;> simp

/-- A glyph from a faithful case is the one that the font draws, kept or not. -/
theorem Faithful.glyph_take (faithful : case.Faithful) (font : Font) (c : Char) :
    (case.take font c).2 = case.draw font c := by
  unfold TypeCase.take
  dsimp only
  cases kept : (case.prepare font).glyphs.lookup c with
  | none => simp
  | some glyph =>
    rw [faithful.prepare font font (size_prepare case font) c glyph kept, draw_prepare]

theorem Faithful.take (faithful : case.Faithful) (font : Font) (c : Char) :
    (case.take font c).1.Faithful := by
  have prepared := faithful.prepare font
  have size := size_prepare case font
  unfold TypeCase.take
  dsimp only
  cases kept : (case.prepare font).glyphs.lookup c with
  | some glyph => exact prepared
  | none =>
    intro other same d glyph found
    -- The new glyph was drawn by `font`, which has the size of `other`.
    have sizes : font.size = other.size := Option.some.inj (size.symm.trans same)
    by_cases new : d = c
    · subst new
      rw [List.lookup_cons_self, Option.some.injEq] at found
      rw [← found]
      exact draw_of_size sizes (case.prepare font) d
    · have differs : (d == c) = false := beq_false_of_ne new
      rw [List.lookup_cons, differs] at found
      exact prepared other same d glyph found

/-! ## Requests in a row -/

/-- What a type case can be asked for. -/
inductive Request where
  | glyph (font : Font) (c : Char)
  | measures (font : Font)
  | outlines (typeface : Typeface)

/-- What a type case answers. -/
inductive Answer where
  | glyph (glyph : Glyph)
  | measures (measures : Measures)
  | outlines (atHand : Bool)
  deriving DecidableEq, Repr

/-- Answer a request. Only a glyph is kept; measures are worked out anew. -/
def serve (case : TypeCase) : Request → TypeCase × Answer
  | .glyph font c => ((case.take font c).1, .glyph (case.take font c).2)
  | .measures font => (case, .measures (case.measures font))
  | .outlines typeface => (case, .outlines (case.faceOf typeface).isSome)

/-- The answers to one request after the other. -/
def answers (case : TypeCase) : List Request → List Answer
  | [] => []
  | request :: rest => (case.serve request).2 :: (case.serve request).1.answers rest

/-- A type case that has just been set up. -/
def fresh (dpi : Nat) (face : String → Option OutlineFace) : TypeCase :=
  { dpi := dpi, face := face }

theorem faithful_fresh (dpi : Nat) (face : String → Option OutlineFace) :
    (fresh dpi face).Faithful :=
  faithful_of_glyphs_eq_nil rfl

theorem fresh_serve (case : TypeCase) (request : Request) :
    fresh (case.serve request).1.dpi (case.serve request).1.face = fresh case.dpi case.face := by
  cases request with
  | glyph font c =>
    change fresh (case.take font c).1.dpi (case.take font c).1.face = _
    rw [dpi_take, face_take]
  | measures font => rfl
  | outlines typeface => rfl

theorem Faithful.serve (faithful : case.Faithful) (request : Request) :
    (case.serve request).1.Faithful := by
  cases request with
  | glyph font c => exact faithful.take font c
  | measures font => exact faithful
  | outlines typeface => exact faithful

/-- A faithful case answers as a case without glyphs does. -/
theorem Faithful.answer_serve (faithful : case.Faithful) (request : Request) :
    (case.serve request).2 = ((fresh case.dpi case.face).serve request).2 := by
  cases request with
  | glyph font c =>
    have kept : (case.take font c).2 = case.draw font c := faithful.glyph_take font c
    have drawn : ((fresh case.dpi case.face).take font c).2 = case.draw font c :=
      (faithful_fresh case.dpi case.face).glyph_take font c
    exact congrArg Answer.glyph (kept.trans drawn.symm)
  | measures font => rfl
  | outlines typeface => rfl

theorem Faithful.answers_eq (faithful : case.Faithful) (requests : List Request) :
    case.answers requests =
      requests.map fun request => ((fresh case.dpi case.face).serve request).2 := by
  -- Each step keeps the resolution and the faces, so the fresh case stays the same one.
  induction requests generalizing case with
  | nil => rfl
  | cons request rest ih =>
    have later := ih (faithful.serve request)
    rw [fresh_serve] at later
    rw [answers, List.map_cons, faithful.answer_serve, later]

/-- Whatever has been asked for before, a type case answers as one that has just been set up. -/
theorem answers_eq_map_fresh (dpi : Nat) (face : String → Option OutlineFace)
    (requests : List Request) :
    (fresh dpi face).answers requests =
      requests.map fun request => ((fresh dpi face).serve request).2 :=
  (faithful_fresh dpi face).answers_eq requests

/-! ## Two type cases -/

/-- Two type cases that give out the same glyphs, whatever has been taken from them. -/
structure Alike (first second : TypeCase) : Prop where
  dpi : first.dpi = second.dpi
  face : first.face = second.face
  faithful : first.Faithful
  faithful' : second.Faithful

theorem Alike.measures {first second : TypeCase} (alike : Alike first second) (font : Font) :
    first.measures font = second.measures font := by
  rw [TypeCase.measures, TypeCase.measures, faceOf, faceOf, alike.face, alike.dpi]

theorem Alike.glyph_take {first second : TypeCase} (alike : Alike first second) (font : Font)
    (c : Char) : (first.take font c).2 = (second.take font c).2 := by
  rw [alike.faithful.glyph_take, alike.faithful'.glyph_take, draw, draw, faceOf, faceOf, alike.face,
    alike.dpi]

theorem Alike.take {first second : TypeCase} (alike : Alike first second) (font : Font)
    (c : Char) : Alike (first.take font c).1 (second.take font c).1 where
  dpi := by rw [dpi_take, dpi_take, alike.dpi]
  face := by rw [face_take, face_take, alike.face]
  faithful := alike.faithful.take font c
  faithful' := alike.faithful'.take font c

end TypeCase

end PinPrinter
