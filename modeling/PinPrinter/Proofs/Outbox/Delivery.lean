import PinPrinter.Outbox

/-! # What a delivery changes

A picture changes the folder, a page of PostScript the folder and the document, a page for the
spooler the job. So a document and a job never wait for pages at the same time, and what is finished
once is finished.
-/

namespace PinPrinter.Outbox

variable {o : Outbox}

theorem exists_deliverPicture (o : Outbox) (encoder : PictureEncoder) (s : Sheet) :
    ∃ folder result, o.deliverPicture encoder s = ({ o with folder := folder }, result) := by
  unfold deliverPicture
  dsimp only
  split
  · exact ⟨o.folder, _, rfl⟩
  · exact ⟨_, _, rfl⟩

theorem exists_deliverPostScript (o : Outbox) (s : Sheet) :
    ∃ document folder result, o.deliverPostScript s =
      ({ o with document := document, folder := folder }, result) := by
  unfold deliverPostScript
  split
  · exact ⟨o.document, o.folder, _, rfl⟩
  · dsimp only
    split
    · exact ⟨_, _, _, rfl⟩
    · exact ⟨_, _, _, rfl⟩

theorem exists_deliverSpooled (o : Outbox) (s : Sheet) :
    ∃ job result, o.deliverSpooled s = ({ o with job := job }, result) := by
  unfold deliverSpooled
  split
  · exact ⟨o.job, _, rfl⟩
  · dsimp only
    split
    · exact ⟨_, _, rfl⟩
    · exact ⟨_, _, rfl⟩

/-! ## What is open -/

/-- A document waits for pages of PostScript only, and a job for those of the spooler. -/
structure Proper (o : Outbox) : Prop where
  document : o.document.isSome = true → o.config.output = .postScript
  job : o.job.isSome = true → o.config.output = .spooler

theorem closed_of_isOpen (closed : o.isOpen = false) : o.document = none ∧ o.job = none := by
  rw [isOpen, Bool.or_eq_false_iff, Option.isSome_eq_false_iff, Option.isSome_eq_false_iff,
    Option.isNone_iff_eq_none, Option.isNone_iff_eq_none] at closed
  exact closed

theorem proper_of_isOpen (closed : o.isOpen = false) : o.Proper := by
  obtain ⟨document, job⟩ := closed_of_isOpen closed
  constructor
  · rw [document]
    exact nofun
  · rw [job]
    exact nofun

theorem Proper.deliver (proper : o.Proper) (s : Sheet) : (o.deliver s).1.Proper := by
  cases format : o.config.output with
  | png =>
    obtain ⟨folder, result, delivered⟩ := o.exists_deliverPicture o.host.pictures.png s
    simp only [Outbox.deliver, format, delivered]
    exact ⟨proper.document, proper.job⟩
  | bmp =>
    obtain ⟨folder, result, delivered⟩ := o.exists_deliverPicture o.host.pictures.bmp s
    simp only [Outbox.deliver, format, delivered]
    exact ⟨proper.document, proper.job⟩
  | postScript =>
    obtain ⟨document, folder, result, delivered⟩ := o.exists_deliverPostScript s
    simp only [Outbox.deliver, format, delivered]
    exact ⟨fun _ => format, proper.job⟩
  | spooler =>
    obtain ⟨job, result, delivered⟩ := o.exists_deliverSpooled s
    simp only [Outbox.deliver, format, delivered]
    exact ⟨proper.document, fun _ => format⟩

/-- Nothing is finished where nothing is open. -/
theorem finish_of_isOpen (closed : o.isOpen = false) : o.finish.1 = o := by
  obtain ⟨document, job⟩ := closed_of_isOpen closed
  obtain ⟨config, host, folder, _, _⟩ := o
  obtain rfl := document
  obtain rfl := job
  rfl

/-- Where a job is open no document is, so whatever is open is finished, accepted or not. -/
theorem Proper.isOpen_finish (proper : o.Proper) : o.finish.1.isOpen = false := by
  obtain ⟨config, host, folder, document, job⟩ := o
  cases document with
  | none =>
    unfold finish
    dsimp only
    split <;> rfl
  | some current =>
    cases job with
    | none => rfl
    | some waiting =>
      have format := (proper.document rfl).symm.trans (proper.job rfl)
      cases format

/-- What is finished stays as it is. -/
theorem Proper.finish_finish (proper : o.Proper) : o.finish.1.finish.1 = o.finish.1 :=
  finish_of_isOpen proper.isOpen_finish

theorem Proper.finish (proper : o.Proper) : o.finish.1.Proper :=
  proper_of_isOpen proper.isOpen_finish

end PinPrinter.Outbox
