import PinPrinter.Proofs.Outbox.Documents
import PinPrinter.Proofs.PostScript.Document

/-! # Nothing is lost, doubled or written over

Whatever an outbox is asked for, its new files have the first names that were free, in order, and
what was in the directory before stays. A picture or a single page has a file of its own; the pages
of a document are in one file, from which they are read back with their numbers.
-/

namespace PinPrinter.Outbox

open PostScript (Transcript pageImages)

variable {host : Host}

/-- A document that is closed is read as its pages, numbered from 1. -/
theorem read?_bind (config : Config) (oneLine : '\n' ∉ host.date.toList) (group : List Sheet) :
    Transcript.read? (documentContent config host group).toBytes.data.toList =
      some ⟨pageImages 0 group, group.length⟩ := by
  obtain ⟨lines, text, counted, whole, read⟩ := PostScript.exists_lines_foldl
    (.start config.widthInches config.heightInches host.date) group
  have header := PostScript.plain_headerLines (PostScript.points config.widthInches)
    (PostScript.points config.heightInches) oneLine
  rw [PostScript.start_bytes, ← PostScript.unlines_append] at text
  have closed := PostScript.read?_close text header whole read
  have empty : (PostScript.Document.start config.widthInches config.heightInches
      host.date).pages = 0 := rfl
  rw [counted, empty, Nat.zero_add] at closed
  have bound : (documentContent config host group).toBytes =
      (group.foldl PostScript.Document.addPage
        (.start config.widthInches config.heightInches host.date)).close := rfl
  rw [bound]
  exact closed

/-- The names of the new files of an outbox are those that were free, in order; what was in the
directory stays. Each picture or single page has a file of its own, which has what the encoder makes
of a picture; a picture whose sizes have more than 32 bits, or that the encoder refuses, uses up its
name all the same. The pages between one finish and the next are one document, from which they are
read with their numbers. In a directory that is missing every page for a file is refused, and pages
for the spooler leave the directory alone. -/
theorem filing (config : Config) (host : Host) (folder : Folder) (tasks : List Task) :
    let o : Outbox := { config := config, host := host, folder := folder }
    (Separate config → folder.Accepts "page" (ending config) (sheets tasks).length →
      (o.run tasks).folder =
          folder.filed "page" (ending config) ((sheets tasks).map (pageContent config host)) ∧
        (o.answers tasks = (sheets tasks).mapIdx fun k s =>
          pageAnswer config host (folder.freeName "page" (ending config) k) s) ∧
        (∀ name s, Pictured config host s ∧ pageAnswer config host name s = .ok (.file name) ∨
          ¬ Pictured config host s ∧
            ∃ e, e.kind = .image ∧ pageAnswer config host name s = .error e) ∧
        (∀ s, Pictured config host s → ∀ encoder, encoder? config host = some encoder →
          encoder s = .ok (pageContent config host s)) ∧
        (config.output = .postScript → '\n' ∉ host.date.toList → ∀ s,
          Transcript.read? (pageContent config host s).toBytes.data.toList =
            some ⟨pageImages 0 [s], 1⟩)) ∧
      (config.output = .postScript → config.multipage = true →
        folder.Accepts "doc" (ending config) (groups tasks).length →
          (o.run (tasks ++ [.finish])).folder =
              folder.filed "doc" (ending config)
                ((groups tasks).map (documentContent config host)) ∧
            o.answers tasks = documentAnswers config folder 0 (groups tasks) ∧
            (∃ contents, (o.run tasks).folder = folder.filed "doc" (ending config) contents) ∧
            ('\n' ∉ host.date.toList → ∀ group,
              Transcript.read? (documentContent config host group).toBytes.data.toList =
                some ⟨pageImages 0 group, group.length⟩)) ∧
      (folder.writable = false → config.output ≠ .spooler →
        o.run tasks = o ∧ ∀ answer ∈ o.answers tasks, ∃ fault, answer = .error (.file fault)) ∧
      (config.output = .spooler → (o.run tasks).folder = folder) := by
  intro o
  have start (front : String) : o = resting config host folder front [] := by
    rw [resting, Folder.filed_nil]
  refine ⟨?_, ?_, ?_, ?_⟩
  · intro separate accepts
    obtain ⟨ran, answered⟩ := run_resting separate accepts host [] tasks (Nat.zero_add _).le
    rw [start "page", ran, answered]
    refine ⟨by simp [resting], by simp, pageAnswer_cases config host, ?_, ?_⟩
    · intro s pictured encoder encodes
      obtain ⟨-, -, content, accepted⟩ := pictured encoder encodes
      rw [accepted, pageContent_of_encoder encodes pictured accepted]
    · intro format oneLine s
      have single : pageContent config host s = documentContent config host [s] := by
        rw [pageContent, encodedPage, encoder?, format]
        rfl
      rw [single]
      exact read?_bind config oneLine [s]
  · intro format multipage accepts
    obtain ⟨finished, answered, kept⟩ :=
      run_binding format multipage accepts host [] [] tasks (Nat.zero_add _).le
    have same : binding config host folder [] [] = o := (start "doc").symm
    rw [same] at finished answered kept
    refine ⟨?_, answered.symm, kept, ?_⟩
    · rw [run_append]
      exact congrArg Outbox.folder finished
    · intro oneLine group
      exact read?_bind config oneLine group
  · intro missing filing
    exact run_of_missing missing filing rfl tasks
  · intro spooled
    exact folder_run_of_spooler spooled rfl tasks

/-- Two pictures, of which the first gets a number between those that are taken; two documents, the
first of two pages; and a page for a directory that is missing. -/
theorem filing_gap :
    let host : Host := { launch := fun _ _ => .error "no programs", date := "2024-02-29 12:30:00" }
    let pictures : Config := .letter
    let documents : Config := { output := .postScript, multipage := true }
    let folder : Folder :=
      { files := [("page1.png", .bytes .empty), ("page3.png", .bytes .empty),
          ("doc1.ps", .bytes .empty)] }
    let missing : Folder := { writable := false }
    let s := Sheet.blank 3 2 60
    let tasks : List Task := [.page s, .finish, .page s]
    let more : List Task := [.page s, .page s, .finish, .page s]
    Separate pictures ∧ folder.Accepts "page" (ending pictures) 2 ∧
      answers { config := pictures, host := host, folder := folder } tasks =
        [.ok (.file "page2.png"), .ok (.file "page4.png")] ∧
      documents.output = .postScript ∧ documents.multipage = true ∧
      folder.Accepts "doc" (ending documents) 2 ∧ '\n' ∉ host.date.toList ∧
      answers { config := documents, host := host, folder := folder } more =
        [.ok (.file "doc2.ps"), .ok (.file "doc2.ps"), .ok (.file "doc3.ps")] ∧
      missing.writable = false ∧ pictures.output ≠ .spooler ∧
      ∀ answer ∈ answers { config := pictures, host := host, folder := missing } tasks,
        ∃ fault, answer = .error (.file fault) := by
  intro host pictures documents folder missing s tasks more
  have separate : Separate pictures := .png rfl
  have acceptsPages : folder.Accepts "page" (ending pictures) 2 :=
    Folder.accepts_of_room rfl rfl ..
  have acceptsDocuments : folder.Accepts "doc" (ending documents) 2 :=
    Folder.accepts_of_room rfl rfl ..
  have paged := ((filing pictures host folder tasks).1 separate acceptsPages).2.1
  have collected := ((filing documents host folder more).2.1 rfl rfl acceptsDocuments).2.1
  have refused := ((filing pictures host missing tasks).2.2.1 rfl (by decide)).2
  have firstPage : folder.freeName "page" (ending pictures) 0 = "page2.png" :=
    Folder.freeName_of_count (n := 2) (by decide +kernel) (by decide +kernel)
  have secondPage : folder.freeName "page" (ending pictures) 1 = "page4.png" :=
    Folder.freeName_of_count (n := 4) (by decide +kernel) (by decide +kernel)
  have firstDocument : folder.freeName "doc" (ending documents) 0 = "doc2.ps" :=
    Folder.freeName_of_count (n := 2) (by decide +kernel) (by decide +kernel)
  have secondDocument : folder.freeName "doc" (ending documents) 1 = "doc3.ps" :=
    Folder.freeName_of_count (n := 3) (by decide +kernel) (by decide +kernel)
  refine ⟨separate, acceptsPages, ?_, rfl, rfl, acceptsDocuments, by decide, ?_, rfl, by decide,
    refused⟩
  · rw [paged, ← firstPage, ← secondPage]
    rfl
  · rw [collected, ← firstDocument, ← secondDocument]
    rfl

/-- A page without pixels gets no PNG picture, one that is too wide no BMP picture, and a page for
the spooler needs no directory. -/
theorem filing_refused :
    let host : Host := { launch := fun _ _ => .ok fun _ => 0, date := "2024-02-29 12:30:00" }
    let pictures (format : OutputFormat) : Outbox :=
      { config := { output := format }, host := host, folder := {} }
    let spooled : Outbox :=
      { config := { output := .spooler }, host := host, folder := { writable := false } }
    (pictures .png).answers [.page (.blank 0 5 72)] =
        [.error (.picture "Zero width not allowed")] ∧
      (pictures .png).answers [.page (.blank 0 5 72)] ≠ [.ok (.file "page1.png")] ∧
      (pictures .bmp).answers [.page (.blank (2 ^ 32) 0 72)] = [.error (.pageWidth (2 ^ 32))] ∧
      (pictures .bmp).answers [.page (.blank (2 ^ 32) 0 72)] ≠ [.ok (.file "page1.bmp")] ∧
      spooled.answers [.page (.blank 3 2 60)] = [.ok (.spooled 1)] ∧
      ∀ fault, spooled.answers [.page (.blank 3 2 60)] ≠ [.error (.file fault)] := by
  have differs {e : Error} {artifact : Artifact} :
      [(.error e : Except Error Artifact)] ≠ [.ok artifact] := by
    simp
  intro host pictures spooled
  have empty : (pictures .png).answers [.page (.blank 0 5 72)] =
      [.error (.picture "Zero width not allowed")] := rfl
  have wide : (pictures .bmp).answers [.page (.blank (2 ^ 32) 0 72)] =
      [.error (.pageWidth (2 ^ 32))] := rfl
  have sent : spooled.answers [.page (.blank 3 2 60)] = [.ok (.spooled 1)] := by
    dsimp only [spooled, host]
    decide +kernel
  refine ⟨empty, empty ▸ differs, wide, wide ▸ differs, sent, ?_⟩
  intro fault
  rw [sent]
  exact differs.symm

end PinPrinter.Outbox
