import PinPrinter.CommandLine
import PinPrinter.Proofs.ParallelInterface.Attached
import PinPrinter.Proofs.Printer.Tasks

/-! # The report on a job

The printer behind the interface hears the bytes of a job and then the eject button, so what the
report names are the artifacts of its pages. Every new file is named once. Pages for the spooler are
told by their numbers: where each page is a print job of its own all of them are page 1, and as the
report leaves out what repeats the line before it, only the first of them is told.
-/

namespace PinPrinter.CommandLine

open Outbox (Receives Collects jobContents jobArtifact pageNumber)
open ParallelInterface (Access Lines Follows heard isOn)
open Printer (Event)

/-! ## What the printer hears -/

/-- What the host sends to print a job. -/
def jobSignals (autofeed : Bool) (job : List UInt8) : List Event :=
  (if autofeed then [.autofeed true] else []) ++
    job.flatMap fun byte => [.byte 0 byte, .acknowledge]

/-- What happens to the printer of a job. -/
def jobEvents (autofeed : Bool) (job : List UInt8) : List Event :=
  jobSignals autofeed job ++ [.formFeed]

/-- What is done to the interface of a job. -/
def jobAccesses (autofeed : Bool) (job : List UInt8) : List Access :=
  (if autofeed then [.writeControl 0 0x06] else []) ++ [.send 0 job, .formFeed]

variable {config : Config} {host : Host} {folder : Folder}

theorem history_jobAccesses (autofeed : Bool) (job : List UInt8) :
    ({} : Lines).history (jobAccesses autofeed job) = jobEvents autofeed job := by
  cases autofeed with
  | false => rfl
  | true => rfl

theorem printJob_eq {port : ParallelInterface}
    (made : ParallelInterface.new config host folder = .ok port) (autofeed : Bool)
    (job : List UInt8) :
    printJob config autofeed job host folder = .ok (port.run (jobAccesses autofeed job)) := by
  rw [printJob, made]
  obtain ⟨rfl, -⟩ := ParallelInterface.eq_of_new made
  cases autofeed with
  | false => rfl
  | true =>
    -- The interface has just been made, so only the line for a reset is high.
    have lines : (ParallelInterface.controlUnused ||| ParallelInterface.initLine) &&& 0x1F |||
        ParallelInterface.autofeedLine = 0x06 := by decide
    change Except.ok ((ParallelInterface.writeControl _ 0 ((ParallelInterface.controlUnused |||
      ParallelInterface.initLine) &&& 0x1F ||| ParallelInterface.autofeedLine)).send 0 job).formFeed
        = _
    rw [lines]
    rfl

theorem isSent_of_mem_jobSignals (autofeed : Bool) (job : List UInt8) :
    ∀ event ∈ jobSignals autofeed job, event.isSent = true := by
  intro event member
  rcases List.mem_append.mp member with line | byte
  · cases autofeed with
    | false => cases line
    | true =>
      obtain rfl := List.mem_singleton.mp line
      rfl
  · obtain ⟨byte, -, heard⟩ := List.mem_flatMap.mp byte
    simp only [List.mem_cons, List.not_mem_nil, or_false] at heard
    rcases heard with rfl | rfl <;> rfl

/-- A job without bytes has no pages. -/
theorem pages_jobEvents_nil (config : Config) (host : Host) (folder : Folder) (autofeed : Bool) :
    (Printer.powerOn config host folder).pages (jobEvents autofeed []) = [] := by
  let p := (Printer.powerOn config host folder).run (if autofeed then [.autofeed true] else [])
  have blank : p.paper.sheet.isBlank = true := by
    cases autofeed <;> exact Sheet.isBlank_clear (.blank ..)
  have log : (Printer.powerOn config host folder).log (jobEvents autofeed []) =
      p.paper.ejectDeeds := by
    cases autofeed <;> exact List.append_nil _
  rw [Printer.pages, log, Paper.ejectDeeds, Paper.turnDeeds, if_pos blank]
  rfl

/-- A printer that is only ejected has sent off nothing, and its directory is as it was. -/
theorem paper_jobEvents_nil (config : Config) (host : Host) (folder : Folder) (autofeed : Bool) :
    let q := (Printer.powerOn config host folder).run (jobEvents autofeed [])
    q.paper.artifacts.toList = [] ∧ q.paper.outbox.folder = folder := by
  intro q
  obtain ⟨outbox, recorded⟩ := Printer.outbox_run_eject
    (isSent_of_mem_jobSignals autofeed []) config host folder
  have none : (Printer.powerOn config host folder).pages
      (jobSignals autofeed [] ++ [.formFeed]) = [] :=
    pages_jobEvents_nil config host folder autofeed
  rw [none] at outbox recorded
  have unchanged : (Outbox.fresh config host folder).run [.finish] = .fresh config host folder :=
    Outbox.finish_of_isOpen rfl
  exact ⟨recorded, congrArg Outbox.folder (outbox.trans unchanged)⟩

/-- The interface of a job has the artifacts and the directory of a printer that hears the job. -/
theorem exists_printJob (valid : config.fault? = none) (enabled : config.enabled = true)
    (host : Host) (folder : Folder) (autofeed : Bool) (job : List UInt8) :
    let q := (Printer.powerOn config host folder).run (jobEvents autofeed job)
    ∃ link, printJob config autofeed job host folder = .ok link ∧
      artifacts link = q.paper.artifacts.toList ∧
        link.currentFolder = q.paper.outbox.folder := by
  intro q
  let port : ParallelInterface :=
    { config := config, host := host, folder := folder, control := ParallelInterface.initLine }
  have made : ParallelInterface.new config host folder = .ok port := by
    rw [ParallelInterface.new, Config.validate, valid]
    rfl
  have follows := ParallelInterface.follows_run_of_new made enabled (jobAccesses autofeed job)
  have printer := follows.printer
  rw [history_jobAccesses] at printer
  refine ⟨_, printJob_eq made autofeed job, ?_⟩
  unfold artifacts ParallelInterface.currentFolder
  cases job with
  | nil =>
    -- Without a byte there is no printer, and one that is only ejected has done nothing either.
    have off : isOn (jobEvents autofeed []) = false := by
      cases autofeed <;> rfl
    obtain ⟨artifacts, directory⟩ := paper_jobEvents_nil config host folder autofeed
    have kept := (ParallelInterface.sameSettings_run port (jobAccesses autofeed [])).folder
    rw [off, if_neg Bool.false_ne_true] at printer
    rw [printer]
    exact ⟨artifacts.symm, kept.trans directory.symm⟩
  | cons byte rest =>
    have on : isOn (jobEvents autofeed (byte :: rest)) = true := by
      cases autofeed <;> rfl
    have all : heard (jobEvents autofeed (byte :: rest)) = jobEvents autofeed (byte :: rest) := by
      cases autofeed <;> rfl
    rw [on, if_pos rfl, all] at printer
    rw [printer]
    exact ⟨rfl, rfl⟩

/-! ## Repeats -/

theorem withoutRepeats_of_isChain {artifacts : List Artifact}
    (chain : artifacts.IsChain (· ≠ ·)) : withoutRepeats artifacts = artifacts := by
  fun_induction withoutRepeats artifacts with
  | case1 first rest ih => exact absurd rfl (List.isChain_cons_cons.mp chain).1
  | case2 first second rest differs ih => rw [ih (List.isChain_cons_cons.mp chain).2]
  | case3 short => rfl

theorem withoutRepeats_of_injective {artifact : Nat → Artifact}
    (distinct : Function.Injective artifact) (count : Nat) :
    withoutRepeats ((List.range count).map artifact) = (List.range count).map artifact :=
  withoutRepeats_of_isChain (List.nodup_range.map distinct).isChain

theorem withoutRepeats_replicate (artifact : Artifact) (count : Nat) :
    withoutRepeats (List.replicate (count + 1) artifact) = [artifact] := by
  induction count with
  | zero => rfl
  | succ count ih =>
    rw [List.replicate_succ, List.replicate_succ, withoutRepeats, if_pos rfl, ← List.replicate_succ]
    exact ih

theorem withoutRepeats_eq_nil_iff {artifacts : List Artifact} :
    withoutRepeats artifacts = [] ↔ artifacts = [] := by
  fun_induction withoutRepeats artifacts with
  | case1 first rest ih => simpa using ih
  | case2 first second rest differs ih => simp
  | case3 short => rfl

/-- The names of the files of a job, each of them once. -/
noncomputable def fileNames (config : Config) (folder : Folder) (contents : List Content) :
    List String :=
  (List.range contents.length).map (folder.freeName (Outbox.front config) (Outbox.ending config))

theorem nodup_fileNames (config : Config) (folder : Folder) (contents : List Content) :
    (fileNames config folder contents).Nodup :=
  List.nodup_range.map (folder.freeName_injective _ _)

theorem not_mem_names_of_mem_fileNames {contents : List Content} {name : String}
    (member : name ∈ fileNames config folder contents) : name ∉ folder.names := by
  obtain ⟨k, -, rfl⟩ := List.mem_map.mp member
  exact folder.freeName_not_mem _ _ k

/-- The new files of a job have these names, in their order. -/
theorem exists_produced (config : Config) (folder : Folder) (contents : List Content) :
    ∃ produced : List (String × Content),
      folder.filed (Outbox.front config) (Outbox.ending config) contents =
          { folder with files := folder.files ++ produced } ∧
        produced.map Prod.fst = fileNames config folder contents ∧
          produced.map Prod.snd = contents :=
  ⟨_, rfl, List.ext_getElem (by simp [fileNames]) (by simp [fileNames]),
    List.ext_getElem (by simp) (by simp)⟩

/-- Of the pages in files, the report keeps one for each file. -/
theorem withoutRepeats_files {pages : List Sheet} (filing : config.output ≠ .spooler) :
    withoutRepeats ((List.range pages.length).map (jobArtifact config folder)) =
      (fileNames config folder (jobContents config host pages)).map .file := by
  unfold jobArtifact fileNames jobContents
  simp only [filing, if_false]
  by_cases collects : Collects config
  · simp only [collects, if_true, List.map_const', List.length_range]
    cases pages with
    | nil => rfl
    | cons s rest => exact withoutRepeats_replicate _ _
  · simp only [collects, if_false, List.length_map, List.map_map]
    apply withoutRepeats_of_injective
    exact fun i j same => folder.freeName_injective _ _ (Artifact.file.inj same)

/-- Of the pages at the spooler, the report keeps all where they are in one job, and only the first
where each is a job. -/
theorem withoutRepeats_spooled {pages : List Sheet} (format : config.output = .spooler) :
    withoutRepeats ((List.range pages.length).map (jobArtifact config folder)) =
      (List.range (if config.multipage then pages.length else min 1 pages.length)).map
        fun k => .spooled (pageNumber config k) := by
  unfold jobArtifact pageNumber
  simp only [format, if_true]
  cases config.multipage with
  | true =>
    apply withoutRepeats_of_injective
    exact fun i j same => Nat.succ_injective (Artifact.spooled.inj same)
  | false =>
    simp only [Bool.false_eq_true, if_false, List.map_const', List.length_range]
    cases pages with
    | nil => rfl
    | cons s rest =>
      rw [List.length_cons, withoutRepeats_replicate, Nat.min_eq_left (Nat.le_add_left 1 _)]
      rfl

/-! ## The text of a report -/

/-- A report of some lines. -/
def reportText (lines : List String) : String :=
  String.join ((if lines = [] then ["Nothing printed."] else lines).map (· ++ "\n"))

theorem reportText_reportLines (docpath : String) (all : List Artifact) :
    String.join ((reportLines docpath all).map (· ++ "\n")) =
      reportText ((withoutRepeats all).map (reportLine docpath)) := by
  unfold reportLines reportText
  cases withoutRepeats all with
  | nil => rfl
  | cons first rest => rfl

/-- Every line that tells of a page or a file begins with a letter of its own. -/
theorem reportText_eq_nothing_iff {docpath : String} {artifacts : List Artifact} :
    reportText (artifacts.map (reportLine docpath)) = "Nothing printed.\n" ↔ artifacts = [] := by
  constructor
  · intro same
    cases artifacts with
    | nil => rfl
    | cons first rest =>
      have letters := congrArg (fun text => text.toList.head?) same
      cases first with
      | file name => simp [reportText, reportLine] at letters
      | spooled page => simp [reportText, reportLine] at letters
  · rintro rfl
    rfl

/-- A report that goes on is longer. -/
theorem eq_nil_of_reportText_append {lines more : List String} (some : lines ≠ [])
    (same : reportText lines = reportText (lines ++ more)) : more = [] := by
  cases more with
  | nil => rfl
  | cons line rest =>
    have texts := congrArg String.toList same
    have longer : lines ++ line :: rest ≠ [] := by simp
    rw [reportText, reportText, if_neg some, if_neg longer, String.toList_join, String.toList_join,
      List.map_append, List.flatMap_append] at texts
    have none := List.self_eq_append_right.mp texts
    simp at none

/-- Some of the first lines of a report are all of it where none is left out. -/
theorem reportText_range_inj {line : Nat → String} {few all : Nat} (less : few ≤ all)
    (some : 0 < all → 0 < few) :
    reportText ((List.range few).map line) = reportText ((List.range all).map line) ↔
      few = all := by
  constructor
  · intro same
    obtain ⟨more, rfl⟩ := Nat.exists_eq_add_of_le less
    by_contra other
    rw [List.range_add, List.map_append] at same
    have none := eq_nil_of_reportText_append (by simp; omega) same
    simp at none
    omega
  · rintro rfl
    rfl

/-- The line about a page at the spooler, once so many pages of the job have gone there. -/
def spoolerLine (config : Config) (before : Nat) : String :=
  "Spooled page " ++ toString (pageNumber config before)

/-- Pages in one print job all have their lines; of print jobs of one page only the first has. -/
theorem reportText_spooled (format : config.output = .spooler) (folder : Folder)
    (pages : List Sheet) (docpath : String) :
    let told := reportText ((withoutRepeats ((List.range pages.length).map
      (jobArtifact config folder))).map (reportLine docpath))
    (told = reportText ((List.range pages.length).map (spoolerLine config)) ↔
        config.multipage = true ∨ pages.length ≤ 1) ∧
      (config.multipage = false → pages ≠ [] → told = "Spooled page 1\n") := by
  intro told
  let count := if config.multipage then pages.length else min 1 pages.length
  have output : told = reportText ((List.range count).map (spoolerLine config)) := by
    unfold told
    rw [withoutRepeats_spooled format, List.map_map]
    rfl
  constructor
  · have less : count ≤ pages.length := by
      unfold count
      split <;> omega
    have some (any : 0 < pages.length) : 0 < count := by
      unfold count
      split <;> omega
    rw [output, reportText_range_inj less some]
    unfold count
    cases config.multipage with
    | true => simp
    | false =>
      simp only [Bool.false_eq_true, if_false, false_or]
      omega
  · intro single any
    have one : count = 1 := by
      have positive := List.length_pos_iff.mpr any
      unfold count
      rw [single, if_neg Bool.false_ne_true]
      omega
    have first : spoolerLine config 0 = "Spooled page 1" := by
      rw [spoolerLine, pageNumber, single, if_neg Bool.false_ne_true]
      rfl
    have lines : (List.range 1).map (spoolerLine config) = ["Spooled page 1"] :=
      congrArg (fun text => [text]) first
    rw [output, one, lines]
    rfl

/-! ## Jobs -/

/-- The pages of a job, in the order in which they are handed over. -/
def jobPages (config : Config) (host : Host) (folder : Folder) (autofeed : Bool)
    (job : List UInt8) : List Sheet :=
  (Printer.powerOn config host folder).pages (jobEvents autofeed job)

theorem enabled_of_jobConfig {w : World} {o : PrintOptions}
    (configured : jobConfig w o = .ok config) : config.enabled = true := by
  unfold jobConfig at configured
  cases given : o.config with
  | none =>
    rw [given] at configured
    obtain rfl := Except.ok.inj configured
    rfl
  | some name =>
    rw [given] at configured
    change ((readFile w name).bind Config.loadBytes).bind (fun c => .ok (configure c o)) = _
      at configured
    cases loaded : (readFile w name).bind Config.loadBytes with
    | error e =>
      rw [loaded] at configured
      cases configured
    | ok c =>
      rw [loaded] at configured
      obtain rfl := Except.ok.inj configured
      rfl

/-- A job that can be read is printed, and its report tells of the artifacts of its pages. -/
theorem print_eq {w : World} {file : String} {o : PrintOptions} {job : ByteArray}
    (configured : jobConfig w o = .ok config) (valid : config.fault? = none)
    (found : jobBytes w file = .ok job)
    (receives : Receives config w.host (w.folder config.docpath)
      (jobPages config w.host (w.folder config.docpath) o.autofeed job.toList)) :
    let folder := w.folder config.docpath
    let pages := jobPages config w.host folder o.autofeed job.toList
    print w file o = .ok {
      exitCode := 0
      output := reportText ((withoutRepeats ((List.range pages.length).map
        (jobArtifact config folder))).map (reportLine config.docpath))
      written := some (config.docpath, folder.filed (Outbox.front config) (Outbox.ending config)
        (jobContents config w.host pages)) } := by
  intro folder pages
  obtain ⟨link, printed, recorded, kept⟩ := exists_printJob valid
    (enabled_of_jobConfig configured) w.host folder o.autofeed job.toList
  obtain ⟨filed, answered⟩ := Outbox.run_job receives
  obtain ⟨outbox, sent⟩ := Printer.outbox_run_eject
    (isSent_of_mem_jobSignals o.autofeed job.toList) config w.host folder
  rw [print, configured, found]
  change (printJob config o.autofeed job.toList w.host folder).bind _ = _
  rw [printed]
  have finished : link.currentFolder =
      folder.filed (Outbox.front config) (Outbox.ending config) (jobContents config w.host pages) :=
    kept.trans ((congrArg Outbox.folder outbox).trans filed)
  have all : artifacts link = (List.range pages.length).map (jobArtifact config folder) :=
    recorded.trans (sent.trans answered)
  rw [← finished, ← all, ← reportText_reportLines]
  rfl

/-- A job whose pages can all be received is reported on line by line, in the order of its pages:
nothing is printed where it has none, and each of its new files is told once. Each page at the
spooler is told with its number just where all are in one job, or there is one at most; of pages in
jobs of their own only the first is told. -/
theorem print_reports_iff {w : World} {file : String} {o : PrintOptions} {job : ByteArray}
    (configured : jobConfig w o = .ok config) (valid : config.fault? = none)
    (found : jobBytes w file = .ok job)
    (receives : Receives config w.host (w.folder config.docpath)
      (jobPages config w.host (w.folder config.docpath) o.autofeed job.toList)) :
    let folder := w.folder config.docpath
    let pages := jobPages config w.host folder o.autofeed job.toList
    let numbers := (List.range pages.length).map (pageNumber config)
    ∃ outcome, print w file o = .ok outcome ∧ outcome.exitCode = 0 ∧
      (outcome.output = "Nothing printed.\n" ↔ pages = []) ∧
      (config.output ≠ .spooler → ∃ produced : List (String × Content),
        outcome.written = some (config.docpath, { folder with files := folder.files ++ produced }) ∧
          (produced.map Prod.fst).Nodup ∧ (∀ name ∈ produced.map Prod.fst, name ∉ folder.names) ∧
          produced.map Prod.snd = jobContents config w.host pages ∧
          outcome.output = reportText
            (produced.map fun file => "Wrote " ++ path config.docpath file.1)) ∧
      (config.output = .spooler →
        outcome.written = some (config.docpath, folder) ∧
          (outcome.output = reportText (numbers.map fun n => "Spooled page " ++ toString n) ↔
            config.multipage = true ∨ pages.length ≤ 1) ∧
          (config.multipage = false → pages ≠ [] → outcome.output = "Spooled page 1\n")) := by
  intro folder pages numbers
  let artifacts := (List.range pages.length).map (jobArtifact config folder)
  refine ⟨_, print_eq configured valid found receives, rfl, ?_, ?_, ?_⟩
  · rw [reportText_eq_nothing_iff, withoutRepeats_eq_nil_iff, List.map_eq_nil_iff,
      List.range_eq_nil, List.length_eq_zero_iff]
  · intro filing
    obtain ⟨produced, filed, names, contents⟩ :=
      exists_produced config folder (jobContents config w.host pages)
    refine ⟨produced, ?_, ?_, ?_, contents, ?_⟩
    · rw [← filed]
    · rw [names]
      exact nodup_fileNames ..
    · rw [names]
      exact fun name => not_mem_names_of_mem_fileNames
    · have lines : (produced.map fun file => "Wrote " ++ path config.docpath file.1) =
          ((produced.map Prod.fst).map Artifact.file).map (reportLine config.docpath) := by
        simp [reportLine]
      rw [lines, names, ← withoutRepeats_files filing]
  · intro format
    have unfiled : jobContents config w.host pages = [] := if_pos format
    have all : (numbers.map fun n => "Spooled page " ++ toString n) =
        (List.range pages.length).map (spoolerLine config) := List.map_map
    obtain ⟨complete, first⟩ :=
      reportText_spooled format folder pages config.docpath
    refine ⟨?_, ?_, first⟩
    · rw [unfiled, Folder.filed_nil]
    · rw [all]
      exact complete

/-- Two pages, each of them a column of dots, are printed as a document, which is told once. -/
theorem print_reports_iff_document :
    let host : Host := { launch := fun _ _ => .error "no programs", date := "2024-02-29 12:30:00" }
    let page : List UInt8 := [0x1B, 0x2A, 0x00, 0x01, 0x00, 0xFF]
    let w : World :=
      { file := fun _ => .error .notFound, input := ⟨(page ++ 0x0C :: page).toArray⟩,
        folder := fun _ => {}, host := host }
    let o : PrintOptions := { dpi := some 1, output := some .postScript, multipage := true }
    let config := configure .letter o
    let pages := jobPages config host {} false w.input.toList
    jobConfig w o = .ok config ∧ config.fault? = none ∧ jobBytes w "-" = .ok w.input ∧
      Receives config host {} pages ∧ pages.length = 2 ∧
        ∃ outcome name, print w "-" o = .ok outcome ∧
          outcome.written =
            some (".", { files := [(name, Outbox.documentContent config host pages)] }) ∧
          outcome.output = reportText ["Wrote " ++ path "." name] := by
  intro host page w o config pages
  have configured : jobConfig w o = .ok config := rfl
  have valid : config.fault? = none := by decide
  have found : jobBytes w "-" = .ok w.input := rfl
  have receives : Receives config host {} pages :=
    { files := fun _ => Folder.accepts_of_room rfl rfl ..
      pictures := fun _ _ _ encodes => nomatch encodes
      jobs := fun other => absurd other (by decide) }
  have two : pages.length = 2 := by decide +kernel
  obtain ⟨outcome, printed, -, -, filed, -⟩ := print_reports_iff configured valid found receives
  have some : pages ≠ [] := List.ne_nil_of_length_pos (by omega)
  have filing : config.output ≠ .spooler := by decide
  have bound : jobContents config host pages = [Outbox.documentContent config host pages] := by
    rw [jobContents, if_neg filing, if_pos ⟨rfl, rfl⟩, if_neg some]
  obtain ⟨produced, written, -, -, contents, output⟩ := filed filing
  obtain ⟨⟨name, content⟩, rfl, same⟩ := List.map_eq_singleton_iff.mp (contents.trans bound)
  obtain rfl : content = _ := same
  exact ⟨configured, valid, found, receives, two, outcome, name, printed, written, output⟩

/-- The same two pages go to the spooler, each as a job of its own, and the report tells one. -/
theorem print_spooled_twice :
    let host : Host := { launch := fun _ _ => .ok fun _ => 0, date := "2024-02-29 12:30:00" }
    let page : List UInt8 := [0x1B, 0x2A, 0x00, 0x01, 0x00, 0xFF]
    let w : World :=
      { file := fun _ => .error .notFound, input := ⟨(page ++ 0x0C :: page).toArray⟩,
        folder := fun _ => {}, host := host }
    let o : PrintOptions := { dpi := some 1, output := some .spooler }
    let config := configure .letter o
    let pages := jobPages config host {} false w.input.toList
    jobConfig w o = .ok config ∧ config.fault? = none ∧ jobBytes w "-" = .ok w.input ∧
      Receives config host {} pages ∧ pages.length = 2 ∧
        ∃ outcome, print w "-" o = .ok outcome ∧
          outcome.output ≠ reportText ["Spooled page 1", "Spooled page 1"] := by
  intro host page w o config pages
  have configured : jobConfig w o = .ok config := rfl
  have valid : config.fault? = none := by decide
  have found : jobBytes w "-" = .ok w.input := rfl
  have spools : Outbox.Spools config host :=
    ⟨"lpr", [], fun _ => 0, by decide +kernel, rfl, fun _ => rfl⟩
  have receives : Receives config host {} pages :=
    { files := fun other => absurd rfl other
      pictures := fun _ _ _ encodes => nomatch encodes
      jobs := fun _ => spools }
  have two : pages.length = 2 := by decide +kernel
  refine ⟨configured, valid, found, receives, two, _, print_eq configured valid found receives, ?_⟩
  change reportText ((withoutRepeats ((List.range pages.length).map
    (jobArtifact config {}))).map (reportLine config.docpath)) ≠ _
  rw [withoutRepeats_spooled rfl, two]
  decide +kernel

end PinPrinter.CommandLine
