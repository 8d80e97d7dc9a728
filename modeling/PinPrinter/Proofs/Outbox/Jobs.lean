import PinPrinter.Proofs.Outbox.Documents

/-! # Whole jobs

The pages of a job come one after the other and are finished at the end. Where the directory takes
files, or the spooler jobs, none of them is refused: each has a file of its own, all of them are in
one document, or they go to the spooler, where a page has its number in the job that it belongs to.
-/

namespace PinPrinter.Outbox

/-- The spooler of a configuration can be started, and accepts every document. -/
def Spools (config : Config) (host : Host) : Prop :=
  ∃ program arguments exitCode, SpoolJob.words config.spooler = program :: arguments ∧
    host.launch program arguments = .ok exitCode ∧ ∀ document, exitCode document = 0

/-- The pages between one finish and the next are one document. -/
def Collects (config : Config) : Prop :=
  config.output = .postScript ∧ config.multipage = true

instance (config : Config) : Decidable (Collects config) :=
  inferInstanceAs (Decidable (config.output = .postScript ∧ config.multipage = true))

/-- The word that opens the names of files. -/
def front (config : Config) : String :=
  if Collects config then "doc" else "page"

/-- What is in the files of a job. -/
def jobContents (config : Config) (host : Host) (pages : List Sheet) : List Content :=
  if config.output = .spooler then []
  else if Collects config then (if pages = [] then [] else [documentContent config host pages])
  else pages.map (pageContent config host)

/-- The number of a page in the print job that it belongs to, once so many pages have gone to the
spooler. -/
def pageNumber (config : Config) (before : Nat) : Nat :=
  if config.multipage then before + 1 else 1

/-- What becomes of a page of a job, once so many pages of it have been sent off. -/
noncomputable def jobArtifact (config : Config) (folder : Folder) (before : Nat) : Artifact :=
  if config.output = .spooler then .spooled (pageNumber config before)
  else .file (folder.freeName (front config) (ending config)
    (if Collects config then 0 else before))

/-- Where the pages of a job can go: the directory takes the files, the encoder of pictures accepts
the pages, or the spooler the jobs. -/
structure Receives (config : Config) (host : Host) (folder : Folder) (pages : List Sheet) :
    Prop where
  files : config.output ≠ .spooler →
    folder.Accepts (front config) (ending config) (jobContents config host pages).length
  pictures : ∀ s ∈ pages, Pictured config host s
  jobs : config.output = .spooler → Spools config host

variable {config : Config} {host : Host} {folder : Folder} {pages : List Sheet}

theorem separate_of_not_collects (filing : config.output ≠ .spooler)
    (single : ¬ Collects config) : Separate config := by
  cases format : config.output with
  | png => exact .png format
  | bmp => exact .bmp format
  | postScript => exact .postScript format (Bool.eq_false_iff.mpr fun both => single ⟨format, both⟩)
  | spooler => exact absurd format filing

/-- The outbox of a printer that is switched on. -/
def fresh (config : Config) (host : Host) (folder : Folder) : Outbox :=
  { config := config, host := host, folder := folder }

theorem resting_nil (config : Config) (host : Host) (folder : Folder) (front : String) :
    resting config host folder front [] = fresh config host folder := by
  rw [resting, Folder.filed_nil]
  rfl

/-! ## Pages for the spooler -/

theorem pages_bind (config : Config) (host : Host) (group : List Sheet) :
    (bind config host group).pages = group.length := by
  induction group using List.reverseRecOn with
  | nil => rfl
  | append_singleton group s ih =>
    rw [bind_concat, List.length_append, ← ih]
    rfl

/-- An outbox with a job open that has had some pages; nothing is open before the first. -/
def spooling (config : Config) (host : Host) (folder : Folder) (exitCode : ByteArray → Nat)
    (group : List Sheet) : Outbox :=
  { fresh config host folder with
    job := if group.isEmpty then none else some ⟨bind config host group, exitCode⟩ }

variable {exitCode : ByteArray → Nat}

theorem currentJob_spooling
    (started : SpoolJob.start host config.spooler config.widthInches config.heightInches =
      .ok ⟨bind config host [], exitCode⟩) (group : List Sheet) :
    (spooling config host folder exitCode group).currentJob =
      .ok ⟨bind config host group, exitCode⟩ := by
  cases group with
  | nil => exact started
  | cons s rest => rfl

theorem spooling_concat (group : List Sheet) (s : Sheet) :
    spooling config host folder exitCode (group ++ [s]) =
      { fresh config host folder with
        job := some ⟨(bind config host group).addPage s, exitCode⟩ } := by
  rw [spooling, bind_concat, if_neg (by simp)]

theorem finish_of_accepts {job : SpoolJob} (accepts : ∀ document, job.exitCode document = 0) :
    job.finish = .ok job.document.pages := by
  rw [SpoolJob.finish, accepts]
  rfl

theorem deliver_spooling (format : config.output = .spooler)
    (started : SpoolJob.start host config.spooler config.widthInches config.heightInches =
      .ok ⟨bind config host [], exitCode⟩)
    (accepts : ∀ document, exitCode document = 0) (group : List Sheet) (s : Sheet) :
    (spooling config host folder exitCode group).deliver s =
      (spooling config host folder exitCode (if config.multipage then group ++ [s] else []),
        .ok (.spooled (group.length + 1))) := by
  have shape : (spooling config host folder exitCode group).config = config := rfl
  rw [deliver, shape, format]
  dsimp only
  rw [deliverSpooled, currentJob_spooling started, shape, ← pages_bind config host group]
  dsimp only
  cases config.multipage with
  | true =>
    rw [if_pos rfl, if_pos rfl, spooling_concat]
    rfl
  | false =>
    rw [if_neg Bool.false_ne_true, if_neg Bool.false_ne_true, finish_of_accepts accepts]
    rfl

theorem answers_spooling (format : config.output = .spooler)
    (started : SpoolJob.start host config.spooler config.widthInches config.heightInches =
      .ok ⟨bind config host [], exitCode⟩)
    (accepts : ∀ document, exitCode document = 0) (group : List Sheet) (pages : List Sheet)
    (kept : config.multipage = false → group = []) :
    (spooling config host folder exitCode group).answers (pages.map .page) =
      pages.mapIdx fun k _ => .ok (.spooled (pageNumber config (group.length + k))) := by
  -- The group grows with each page where the job stays open, and stays empty otherwise.
  induction pages generalizing group with
  | nil => rfl
  | cons s rest ih =>
    have delivered : (spooling config host folder exitCode group).deliver s = _ :=
      deliver_spooling format started accepts group s
    rw [List.map_cons, answers, perform, delivered, List.mapIdx_cons]
    cases many : config.multipage with
    | true =>
      rw [if_pos rfl, ih _ (fun single => Bool.noConfusion (many.symm.trans single))]
      simp only [pageNumber, many, if_true, List.length_append, List.length_singleton,
        Nat.add_zero, Nat.add_assoc, Nat.add_comm 1]
    | false =>
      obtain rfl := kept many
      rw [if_neg Bool.false_ne_true, ih [] fun _ => rfl]
      simp only [pageNumber, many, Bool.false_eq_true, if_false, List.length_nil, Nat.zero_add]

/-! ## A job -/

theorem pageAnswer_of_pictured {s : Sheet} (pictured : Pictured config host s) (name : String) :
    pageAnswer config host name s = .ok (.file name) := by
  rcases pageAnswer_cases config host name s with ⟨-, filed⟩ | ⟨unfit, -⟩
  · exact filed
  · exact absurd pictured unfit

/-- Pages for the spooler get their numbers, and the directory stays as it is. -/
theorem job_of_spools (format : config.output = .spooler) (spools : Spools config host)
    (folder : Folder) (pages : List Sheet) :
    let o := fresh config host folder
    (o.run (pages.map .page ++ [.finish])).folder = folder ∧
      o.answers (pages.map .page) =
        pages.mapIdx fun k _ => .ok (.spooled (pageNumber config k)) := by
  intro o
  obtain ⟨program, arguments, exitCode, words, launched, accepts⟩ := spools
  have started : SpoolJob.start host config.spooler config.widthInches config.heightInches =
      .ok ⟨bind config host [], exitCode⟩ := by
    rw [SpoolJob.start, words]
    dsimp only
    rw [launched]
    rfl
  have answered : (spooling config host folder exitCode []).answers (pages.map .page) = _ :=
    answers_spooling format started accepts [] pages fun _ => rfl
  refine ⟨folder_run_of_spooler format rfl _, ?_⟩
  simp only [List.length_nil, Nat.zero_add] at answered
  exact answered

/-- Each page has a file of its own. -/
theorem job_of_separate (separate : Separate config)
    (accepts : folder.Accepts "page" (ending config) pages.length)
    (pictured : ∀ s ∈ pages, Pictured config host s) :
    let o := fresh config host folder
    (o.run (pages.map .page ++ [.finish])).folder =
        folder.filed "page" (ending config) (pages.map (pageContent config host)) ∧
      o.answers (pages.map .page) =
        pages.mapIdx fun k _ => .ok (.file (folder.freeName "page" (ending config) k)) := by
  intro o
  have start : o = resting config host folder "page" [] := (resting_nil ..).symm
  obtain ⟨ran, answered⟩ := run_resting separate accepts host [] (pages.map .page) (by
    rw [sheets_pages]
    exact (Nat.zero_add _).le)
  rw [sheets_pages] at ran answered
  rw [start, run_append, ran, answered]
  constructor
  · exact congrArg Outbox.folder (perform_finish_resting ..)
  · apply List.mapIdx_eq_mapIdx_iff.mpr
    intro k inside
    rw [pageAnswer_of_pictured (pictured _ (List.getElem_mem inside)), List.length_nil,
      Nat.zero_add]

/-- All pages are in one document. -/
theorem job_of_collects (collects : Collects config)
    (accepts : folder.Accepts "doc" (ending config) (if pages = [] then 0 else 1)) :
    let o := fresh config host folder
    (o.run (pages.map .page ++ [.finish])).folder =
        folder.filed "doc" (ending config)
          (if pages = [] then [] else [documentContent config host pages]) ∧
      o.answers (pages.map .page) =
        pages.mapIdx fun _ _ => .ok (.file (folder.freeName "doc" (ending config) 0)) := by
  intro o
  have start : o = binding config host folder [] [] := (resting_nil ..).symm
  have grouped : groups (pages.map .page) = if pages = [] then [] else [pages] := by
    rw [groups_pages]
    cases pages with
    | nil => rfl
    | cons s rest => rfl
  obtain ⟨finished, answered, -⟩ :=
    run_binding collects.1 collects.2 accepts host [] [] (pages.map .page) (by
      rw [List.map_nil, List.nil_append, grouped, List.length_nil, Nat.zero_add]
      split <;> exact Nat.le_refl _)
  have alone : ([] : List Sheet).map Task.page ++ pages.map .page = pages.map .page := rfl
  rw [alone] at finished answered
  rw [documentAnswers_pages] at answered
  rw [start, run_append]
  constructor
  · refine (congrArg Outbox.folder finished).trans ?_
    rw [grouped]
    cases pages with
    | nil => rfl
    | cons s rest => rfl
  · refine answered.symm.trans ?_
    exact List.ext_getElem (by simp) (by simp)

/-- What becomes of a whole job: its files have the first names that were free, and every page is in
one of them, or at the spooler. -/
theorem run_job (receives : Receives config host folder pages) :
    let o := fresh config host folder
    (o.run (pages.map .page ++ [.finish])).folder =
        folder.filed (front config) (ending config) (jobContents config host pages) ∧
      (o.answers (pages.map .page)).filterMap Except.toOption =
        (List.range pages.length).map (jobArtifact config folder) := by
  intro o
  have sent {artifact : Nat → Artifact}
      (answered : o.answers (pages.map .page) = pages.mapIdx fun k _ => .ok (artifact k)) :
      (o.answers (pages.map .page)).filterMap Except.toOption =
        (List.range pages.length).map artifact := by
    have numbered : (pages.mapIdx fun k _ => (.ok (artifact k) : Except Error Artifact)) =
        (List.range pages.length).map fun k => .ok (artifact k) :=
      List.ext_getElem (by simp) (by simp)
    rw [answered, numbered, List.filterMap_map]
    exact congrFun List.filterMap_eq_map _
  unfold jobArtifact
  by_cases format : config.output = .spooler
  · obtain ⟨kept, answered⟩ := job_of_spools format (receives.jobs format) folder pages
    simp only [jobContents, format, if_true, Folder.filed_nil]
    exact ⟨kept, sent answered⟩
  · have accepts := receives.files format
    simp only [jobContents, format, if_false] at accepts ⊢
    by_cases collects : Collects config
    · simp only [front, collects, if_true] at accepts ⊢
      have accepts : folder.Accepts "doc" (ending config) (if pages = [] then 0 else 1) := by
        rwa [apply_ite List.length] at accepts
      obtain ⟨filed, answered⟩ := job_of_collects collects accepts
      exact ⟨filed, sent answered⟩
    · simp only [front, collects, if_false, List.length_map] at accepts ⊢
      obtain ⟨filed, answered⟩ :=
        job_of_separate (separate_of_not_collects format collects) accepts receives.pictures
      exact ⟨filed, sent answered⟩

end PinPrinter.Outbox
