import PinPrinter.Proofs.Folder.Numbering
import PinPrinter.Proofs.Outbox.Delivery

/-! # Pages in files of their own

An outbox for pictures, or for single pages of PostScript, has a new file for every page, and
nothing in it ever waits. The numbers of the files are those that were free, in the order of the
pages. In a directory that is missing nothing is written at all, and pages for the spooler leave it
alone.
-/

namespace PinPrinter.Outbox

/-- What an outbox is asked for. -/
inductive Task where
  /-- Send off a sheet. -/
  | page (sheet : Sheet)
  /-- Finish the document or job that is open. -/
  | finish

/-- The sheet that a task sends off. -/
def Task.sheet? : Task → Option Sheet
  | page sheet => some sheet
  | finish => none

/-- The task only finishes what is open. -/
def Task.isFinish : Task → Bool
  | page _ => false
  | finish => true

/-- The outbox after a task. -/
def perform (o : Outbox) : Task → Outbox
  | .page s => (o.deliver s).1
  | .finish => o.finish.1

/-- The outbox after some tasks. -/
def run (o : Outbox) (tasks : List Task) : Outbox :=
  tasks.foldl perform o

/-- What becomes of the sheets that some tasks send off. -/
def answers (o : Outbox) : List Task → List (Except Error Artifact)
  | [] => []
  | .page s :: rest => (o.deliver s).2 :: (o.perform (.page s)).answers rest
  | .finish :: rest => (o.perform .finish).answers rest

/-- The sheets that some tasks send off. -/
def sheets (tasks : List Task) : List Sheet :=
  tasks.filterMap Task.sheet?

/-- Every page has a file of its own. -/
inductive Separate (config : Config) : Prop
  | png (format : config.output = .png)
  | bmp (format : config.output = .bmp)
  | postScript (format : config.output = .postScript) (single : config.multipage = false)

/-- The document that sheets make. -/
def bind (config : Config) (host : Host) (sheets : List Sheet) : PostScript.Document :=
  sheets.foldl PostScript.Document.addPage
    (.start config.widthInches config.heightInches host.date)

/-- The encoder of the format, if it is one of pictures. -/
def encoder? (config : Config) (host : Host) : Option PictureEncoder :=
  match config.output with
  | .png => some host.pictures.png
  | .bmp => some host.pictures.bmp
  | .postScript | .spooler => none

/-- What is in the file of a page, and why it is not a picture of it if it should be one. -/
def encodedPage (config : Config) (host : Host) (s : Sheet) : Content × Option Error :=
  match encoder? config host with
  | some encoder => Picture.encode encoder s
  | none => (.bytes (bind config host [s]).close, none)

/-- What is in the file of a page. -/
def pageContent (config : Config) (host : Host) (s : Sheet) : Content :=
  (encodedPage config host s).1

/-- What becomes of a page whose file has a name. -/
def pageAnswer (config : Config) (host : Host) (name : String) (s : Sheet) :
    Except Error Artifact :=
  match (encodedPage config host s).2 with
  | none => .ok (.file name)
  | some e => .error e

/-- A page that can be put into a file: where its format is one of pictures, its sizes have 32 bits
and the encoder accepts it. -/
def Pictured (config : Config) (host : Host) (s : Sheet) : Prop :=
  ∀ encoder, encoder? config host = some encoder →
    s.width < 2 ^ 32 ∧ s.height < 2 ^ 32 ∧ ∃ content, encoder s = .ok content

/-- The ending of the names of files. -/
def ending (config : Config) : String :=
  "." ++ config.output.extension

/-- An outbox with nothing open, once contents have gone to new files. -/
noncomputable def resting (config : Config) (host : Host) (folder : Folder) (front : String)
    (contents : List Content) : Outbox where
  config := config
  host := host
  folder := folder.filed front (ending config) contents

variable {config : Config} {host : Host} {folder : Folder} {contents : List Content} {count : Nat}

/-! ## One page -/

/-- A picture is refused for its sizes or by its encoder, and for nothing else. -/
theorem encode_eq (encoder : PictureEncoder) (s : Sheet) :
    (∃ content, s.width < 2 ^ 32 ∧ s.height < 2 ^ 32 ∧ encoder s = .ok content ∧
        Picture.encode encoder s = (content, none)) ∨
      ¬ (s.width < 2 ^ 32 ∧ s.height < 2 ^ 32 ∧ ∃ content, encoder s = .ok content) ∧
        ∃ content e, Picture.encode encoder s = (content, some e) ∧ e.kind = .image := by
  unfold Picture.encode Picture.checkSizes
  by_cases wide : Rounding.power 32 ≤ s.width
  · rw [if_pos wide]
    exact .inr ⟨fun ⟨narrow, _⟩ => absurd narrow (Nat.not_lt.mpr wide), _, _, rfl, rfl⟩
  by_cases high : Rounding.power 32 ≤ s.height
  · rw [if_neg wide, if_pos high]
    exact .inr ⟨fun ⟨_, low, _⟩ => absurd low (Nat.not_lt.mpr high), _, _, rfl, rfl⟩
  rw [if_neg wide, if_neg high]
  cases encoder s with
  | ok content => exact .inl ⟨content, Nat.not_le.mp wide, Nat.not_le.mp high, rfl, rfl⟩
  | error refusal => exact .inr ⟨fun ⟨_, _, _, accepted⟩ => (nomatch accepted), _, _, rfl, rfl⟩

/-- A page that can be put into a file has it as its artifact, and another is refused with an error
about a picture. -/
theorem pageAnswer_cases (config : Config) (host : Host) (name : String) (s : Sheet) :
    Pictured config host s ∧ pageAnswer config host name s = .ok (.file name) ∨
      ¬ Pictured config host s ∧
        ∃ e, e.kind = .image ∧ pageAnswer config host name s = .error e := by
  unfold pageAnswer encodedPage Pictured
  cases encoder? config host with
  | none => exact .inl ⟨nofun, rfl⟩
  | some encoder =>
    simp only [Option.some.injEq, forall_eq']
    rcases encode_eq encoder s with ⟨content, narrow, low, accepted, encoded⟩ | refused
    · exact .inl ⟨⟨narrow, low, content, accepted⟩, by rw [encoded]⟩
    · obtain ⟨unfit, content, e, encoded, kind⟩ := refused
      exact .inr ⟨unfit, e, kind, by rw [encoded]⟩

/-- The file of a picture has what the encoder makes of the page. -/
theorem pageContent_of_encoder {encoder : PictureEncoder}
    (encodes : encoder? config host = some encoder) {s : Sheet} {content : Content}
    (pictured : Pictured config host s) (accepted : encoder s = .ok content) :
    pageContent config host s = content := by
  obtain ⟨narrow, low, -⟩ := pictured encoder encodes
  rcases encode_eq encoder s with ⟨content', -, -, accepted', encoded⟩ | ⟨unfit, -⟩
  · obtain rfl : content' = content := Except.ok.inj (accepted'.symm.trans accepted)
    rw [pageContent, encodedPage, encodes]
    exact congrArg Prod.fst encoded
  · exact absurd ⟨narrow, low, content, accepted⟩ unfit

theorem nextName_resting {front : String} (accepts : folder.Accepts front (ending config) count)
    (less : contents.length < count) :
    (resting config host folder front contents).nextName front =
      folder.freeName front (ending config) contents.length :=
  Folder.nextName_filed accepts less

theorem create_resting {front : String} (accepts : folder.Accepts front (ending config) count)
    (less : contents.length < count) :
    (resting config host folder front contents).folder.create
        (folder.freeName front (ending config) contents.length) =
      .ok (folder.filed front (ending config) (contents ++ [.bytes .empty])) :=
  Folder.create_filed accepts less

theorem deliverPicture_resting (accepts : folder.Accepts "page" (ending config) count)
    (less : contents.length < count) {encoder : PictureEncoder}
    (encodes : encoder? config host = some encoder) (s : Sheet) :
    (resting config host folder "page" contents).deliverPicture encoder s =
      (resting config host folder "page" (contents ++ [pageContent config host s]),
        pageAnswer config host (folder.freeName "page" (ending config) contents.length) s) := by
  have encoded : encodedPage config host s = Picture.encode encoder s := by
    rw [encodedPage, encodes]
  rw [deliverPicture, nextName_resting accepts less, create_resting accepts less, pageContent,
    pageAnswer, encoded]
  dsimp only
  rw [Folder.put_filed accepts less]
  rfl

/-- The document that a page opens. -/
theorem currentDocument_resting {front : String}
    (opens : (if config.multipage then "doc" else "page") = front)
    (accepts : folder.Accepts front (ending config) count)
    (less : contents.length < count) :
    (resting config host folder front contents).currentDocument =
      .ok (⟨folder.freeName front (ending config) contents.length, bind config host []⟩,
        folder.filed front (ending config) (contents ++ [.bytes .empty])) := by
  have opened : (resting config host folder front contents).currentDocument =
      ((resting config host folder front contents).folder.create
        ((resting config host folder front contents).nextName front)).map fun created =>
          (⟨(resting config host folder front contents).nextName front, bind config host []⟩,
            created) := by
    rw [← opens]
    rfl
  rw [opened, nextName_resting accepts less, create_resting accepts less]
  rfl

theorem deliver_resting (separate : Separate config)
    (accepts : folder.Accepts "page" (ending config) count) (less : contents.length < count)
    (s : Sheet) :
    (resting config host folder "page" contents).deliver s =
      (resting config host folder "page" (contents ++ [pageContent config host s]),
        pageAnswer config host (folder.freeName "page" (ending config) contents.length) s) := by
  have settings : (resting config host folder "page" contents).config = config := rfl
  have outside : (resting config host folder "page" contents).host = host := rfl
  rw [deliver, settings, outside]
  cases separate with
  | png format =>
    rw [format]
    exact deliverPicture_resting accepts less (by rw [encoder?, format]) s
  | bmp format =>
    rw [format]
    exact deliverPicture_resting accepts less (by rw [encoder?, format]) s
  | postScript format single =>
    have opens : (if config.multipage then "doc" else "page") = "page" := by
      rw [single]
      rfl
    have encoded : encodedPage config host s = (.bytes (bind config host [s]).close, none) := by
      rw [encodedPage, encoder?, format]
    rw [format, pageContent, pageAnswer, encoded]
    dsimp only
    rw [deliverPostScript, currentDocument_resting opens accepts less]
    change (if config.multipage then _ else _, _) = _
    rw [single, if_neg Bool.false_ne_true, closeDocument]
    dsimp only
    rw [Folder.put_filed accepts less]
    rfl

/-! ## A run -/

theorem sheets_page (s : Sheet) (rest : List Task) : sheets (.page s :: rest) = s :: sheets rest :=
  rfl

theorem run_cons (o : Outbox) (task : Task) (rest : List Task) :
    o.run (task :: rest) = (o.perform task).run rest :=
  rfl

theorem run_append (o : Outbox) (first second : List Task) :
    o.run (first ++ second) = (o.run first).run second :=
  List.foldl_append

theorem perform_finish_resting (config : Config) (host : Host) (folder : Folder) (front : String)
    (contents : List Content) :
    (resting config host folder front contents).perform .finish =
      resting config host folder front contents :=
  finish_of_isOpen rfl

theorem run_resting (separate : Separate config)
    (accepts : folder.Accepts "page" (ending config) count) (host : Host)
    (contents : List Content) (tasks : List Task)
    (few : contents.length + (sheets tasks).length ≤ count) :
    (resting config host folder "page" contents).run tasks =
        resting config host folder "page"
          (contents ++ (sheets tasks).map (pageContent config host)) ∧
      (resting config host folder "page" contents).answers tasks =
        (sheets tasks).mapIdx fun k s =>
          pageAnswer config host
            (folder.freeName "page" (ending config) (contents.length + k)) s := by
  induction tasks generalizing contents with
  | nil => exact ⟨by simp [run, sheets], rfl⟩
  | cons task rest ih =>
    cases task with
    | finish =>
      rw [answers, run_cons, perform_finish_resting]
      exact ih contents few
    | page s =>
      rw [sheets_page, List.length_cons] at few
      have grown : (contents ++ [pageContent config host s]).length = contents.length + 1 :=
        List.length_append
      have less : contents.length < count := by omega
      have delivered : (resting config host folder "page" contents).deliver s = _ :=
        deliver_resting separate accepts less s
      have later := ih (contents ++ [pageContent config host s]) (by omega)
      have next : (resting config host folder "page" contents).perform (.page s) =
          resting config host folder "page" (contents ++ [pageContent config host s]) := by
        rw [perform, delivered]
      have shifted (k : Nat) :
          (contents ++ [pageContent config host s]).length + k = contents.length + (k + 1) := by
        omega
      constructor
      · rw [run_cons, next, later.1, sheets_page, List.map_cons, List.append_assoc,
          List.singleton_append]
      · rw [answers, next, later.2, delivered, sheets_page, List.mapIdx_cons, Nat.add_zero]
        simp only [shifted]

/-! ## No files -/

/-- In a directory that is missing no file is made. -/
theorem create_of_missing {f : Folder} (missing : f.writable = false) (name : String) :
    ∃ fault, f.create name = .error (.file fault) := by
  unfold Folder.create
  split
  · exact ⟨_, rfl⟩
  · rw [missing]
    exact ⟨_, rfl⟩

theorem deliverPicture_of_missing {o : Outbox} (missing : o.folder.writable = false)
    (encoder : PictureEncoder) (s : Sheet) :
    ∃ fault, o.deliverPicture encoder s = (o, .error (.file fault)) := by
  obtain ⟨fault, refused⟩ := create_of_missing missing (o.nextName "page")
  refine ⟨fault, ?_⟩
  rw [deliverPicture, refused]

theorem deliver_of_missing {o : Outbox} (missing : o.folder.writable = false)
    (filing : o.config.output ≠ .spooler) (closed : o.document = none) (s : Sheet) :
    ∃ fault, o.deliver s = (o, .error (.file fault)) := by
  unfold deliver
  split
  · exact deliverPicture_of_missing missing _ s
  · exact deliverPicture_of_missing missing _ s
  · obtain ⟨fault, refused⟩ :=
      create_of_missing missing (o.nextName (if o.config.multipage then "doc" else "page"))
    refine ⟨fault, ?_⟩
    rw [deliverPostScript, currentDocument, closed]
    dsimp only
    rw [refused]
    rfl
  · contradiction

theorem run_of_missing {o : Outbox} (missing : o.folder.writable = false)
    (filing : o.config.output ≠ .spooler) (closed : o.isOpen = false) (tasks : List Task) :
    o.run tasks = o ∧ ∀ answer ∈ o.answers tasks, ∃ fault, answer = .error (.file fault) := by
  induction tasks with
  | nil => exact ⟨rfl, by simp [answers]⟩
  | cons task rest ih =>
    cases task with
    | finish =>
      have same : o.perform .finish = o := finish_of_isOpen closed
      rw [answers, run_cons, same]
      exact ih
    | page s =>
      obtain ⟨fault, refused⟩ := deliver_of_missing missing filing (closed_of_isOpen closed).1 s
      have same : o.perform (.page s) = o := by
        rw [perform, refused]
      rw [answers, run_cons, same, refused]
      refine ⟨ih.1, ?_⟩
      intro answer member
      rcases List.mem_cons.mp member with rfl | later
      · exact ⟨fault, rfl⟩
      · exact ih.2 answer later

/-- What the spooler gets is in no file. -/
theorem exists_perform_of_spooler {o : Outbox} (spooled : o.config.output = .spooler)
    (closed : o.document = none) (task : Task) : ∃ job, o.perform task = { o with job := job } := by
  cases task with
  | page s =>
    obtain ⟨job, result, delivered⟩ := o.exists_deliverSpooled s
    refine ⟨job, ?_⟩
    rw [perform, deliver, spooled]
    exact congrArg Prod.fst delivered
  | finish =>
    refine ⟨none, ?_⟩
    obtain ⟨config, host, folder, document, job⟩ := o
    obtain rfl : document = none := closed
    unfold perform finish
    dsimp only
    split <;> rfl

theorem folder_run_of_spooler {o : Outbox} (spooled : o.config.output = .spooler)
    (closed : o.document = none) (tasks : List Task) : (o.run tasks).folder = o.folder := by
  induction tasks generalizing o with
  | nil => rfl
  | cons task rest ih =>
    obtain ⟨job, performed⟩ := exists_perform_of_spooler spooled closed task
    rw [run_cons, performed]
    exact ih spooled closed

end PinPrinter.Outbox
