import PinPrinter.Proofs.Outbox.Pages

/-! # Pages bound in documents

Where pages are collected, those between one finish and the next are a document in one file. Its
name is the first that was free when its first page came, and stays until the document is closed.
-/

namespace PinPrinter.Outbox

/-- The sheets between one finish and the next, wherever there are any. -/
def groups (tasks : List Task) : List (List Sheet) :=
  ((tasks.splitOnP Task.isFinish).map sheets).filter (!·.isEmpty)

/-- What is in the file of a document that is closed. -/
def documentContent (config : Config) (host : Host) (group : List Sheet) : Content :=
  .bytes (bind config host group).close

variable {config : Config} {host : Host} {folder : Folder} {contents : List Content} {count : Nat}

/-! ## Groups -/

theorem sheets_pages (group : List Sheet) : sheets (group.map .page) = group := by
  induction group with
  | nil => rfl
  | cons s rest ih => exact congrArg (s :: ·) ih

theorem splitOnP_pages (group : List Sheet) :
    (group.map Task.page).splitOnP Task.isFinish = [group.map .page] := by
  apply List.splitOnP_eq_singleton
  intro task member
  obtain ⟨s, -, rfl⟩ := List.mem_map.mp member
  rfl

theorem groups_pages (group : List Sheet) :
    groups (group.map .page) = if group.isEmpty then [] else [group] := by
  rw [groups, splitOnP_pages, List.map_singleton, sheets_pages]
  cases group with
  | nil => rfl
  | cons s rest => rfl

theorem groups_pages_finish (group : List Sheet) (rest : List Task) :
    groups (group.map .page ++ .finish :: rest) = groups (group.map .page) ++ groups rest := by
  rw [groups, List.splitOnP_append_cons _ _ rfl, List.map_append, List.filter_append]
  rfl

/-! ## One task -/

/-- An outbox with a document of a group open, once contents have gone to new files. Where the group
is empty nothing is open. -/
noncomputable def binding (config : Config) (host : Host) (folder : Folder)
    (contents : List Content) (group : List Sheet) : Outbox :=
  if group.isEmpty then resting config host folder "doc" contents
  else
    { resting config host folder "doc"
        (contents ++ [.bytes (bind config host group).file.written]) with
      document :=
        some ⟨folder.freeName "doc" (ending config) contents.length, bind config host group⟩ }

theorem bind_concat (config : Config) (host : Host) (group : List Sheet) (s : Sheet) :
    bind config host (group ++ [s]) = (bind config host group).addPage s := by
  rw [bind, List.foldl_concat]
  rfl

/-- The document that the next page of a group goes to: the open one, or a new one. -/
theorem exists_currentDocument_binding (multipage : config.multipage = true)
    (accepts : folder.Accepts "doc" (ending config) count) (less : contents.length < count)
    (host : Host) (group : List Sheet) :
    ∃ old, (binding config host folder contents group).currentDocument =
      .ok (⟨folder.freeName "doc" (ending config) contents.length, bind config host group⟩,
        folder.filed "doc" (ending config) (contents ++ [old])) := by
  cases group with
  | nil =>
    have opens : (if config.multipage then "doc" else "page") = "doc" := by
      rw [multipage]
      rfl
    exact ⟨_, currentDocument_resting opens accepts less⟩
  | cons s rest => exact ⟨_, rfl⟩

theorem binding_concat (group : List Sheet) (s : Sheet) :
    binding config host folder contents (group ++ [s]) =
      { resting config host folder "doc"
          (contents ++ [.bytes (bind config host (group ++ [s])).file.written]) with
        document := some ⟨folder.freeName "doc" (ending config) contents.length,
          bind config host (group ++ [s])⟩ } := by
  rw [binding, if_neg]
  simp

theorem exists_binding (config : Config) (host : Host) (folder : Folder) (contents : List Content)
    (group : List Sheet) : ∃ now document,
      binding config host folder contents group =
        ⟨config, host, folder.filed "doc" (ending config) now, document, none⟩ := by
  unfold binding
  split
  · exact ⟨_, _, rfl⟩
  · exact ⟨_, _, rfl⟩

theorem deliver_binding (format : config.output = .postScript) (multipage : config.multipage = true)
    (accepts : folder.Accepts "doc" (ending config) count) (less : contents.length < count)
    (group : List Sheet) (s : Sheet) :
    (binding config host folder contents group).deliver s =
      (binding config host folder contents (group ++ [s]),
        .ok (.file (folder.freeName "doc" (ending config) contents.length))) := by
  obtain ⟨old, current⟩ :=
    exists_currentDocument_binding multipage accepts less host group
  obtain ⟨now, document, shape⟩ := exists_binding config host folder contents group
  rw [binding_concat, bind_concat]
  rw [shape] at current ⊢
  unfold deliver
  dsimp only
  rw [format]
  dsimp only
  rw [deliverPostScript, current]
  dsimp only
  rw [multipage, if_pos rfl, Folder.put_filed accepts less]
  rfl

/-- The document that is open is closed in its file. -/
theorem finish_binding (accepts : folder.Accepts "doc" (ending config) count) (group : List Sheet)
    (few : contents.length + (groups (group.map .page)).length ≤ count) :
    (binding config host folder contents group).finish.1 =
      resting config host folder "doc"
        (contents ++ (groups (group.map .page)).map (documentContent config host)) := by
  rw [groups_pages] at few ⊢
  cases group with
  | nil =>
    have closed : (binding config host folder contents []).isOpen = false := rfl
    rw [finish_of_isOpen closed]
    simp [binding]
  | cons s rest =>
    have less : contents.length < count := few
    have finished : (binding config host folder contents (s :: rest)).finish.1 =
        { resting config host folder "doc" contents with
          folder := (folder.filed "doc" (ending config)
            (contents ++ [.bytes (bind config host (s :: rest)).file.written])).put
              (folder.freeName "doc" (ending config) contents.length)
              (documentContent config host (s :: rest)) } := rfl
    rw [finished, Folder.put_filed accepts less]
    rfl

/-! ## A run -/

theorem length_groups_pos {group : List Sheet} (some : group.isEmpty = false) (tasks : List Task) :
    0 < (groups (group.map .page ++ tasks)).length := by
  induction tasks generalizing group with
  | nil =>
    rw [List.append_nil, groups_pages, some]
    exact Nat.one_pos
  | cons task rest ih =>
    cases task with
    | finish =>
      rw [groups_pages_finish, groups_pages, some, List.length_append]
      exact Nat.lt_of_lt_of_le Nat.one_pos (Nat.le_add_right ..)
    | page s =>
      have longer : (group ++ [s]).isEmpty = false := by simp
      have later := ih longer
      rwa [List.map_append, List.append_assoc] at later

/-- The file that each page of each group went to. -/
noncomputable def documentAnswers (config : Config) (folder : Folder) (before : Nat)
    (groups : List (List Sheet)) : List (Except Error Artifact) :=
  (groups.mapIdx fun j group => group.map fun _ =>
    .ok (.file (folder.freeName "doc" (ending config) (before + j)))).flatten

theorem documentAnswers_append (first second : List (List Sheet)) (before : Nat) :
    documentAnswers config folder before (first ++ second) =
      documentAnswers config folder before first ++
        documentAnswers config folder (before + first.length) second := by
  simp only [documentAnswers, List.mapIdx_append, List.flatten_append, Nat.add_assoc,
    Nat.add_comm first.length]

theorem documentAnswers_pages (before : Nat) (group : List Sheet) :
    documentAnswers config folder before (groups (group.map .page)) =
      group.map fun _ => .ok (.file (folder.freeName "doc" (ending config) before)) := by
  rw [groups_pages]
  cases group with
  | nil => rfl
  | cons s rest => exact List.append_nil _

theorem run_binding (format : config.output = .postScript) (multipage : config.multipage = true)
    (accepts : folder.Accepts "doc" (ending config) count) (host : Host)
    (contents : List Content) (group : List Sheet) (tasks : List Task)
    (few : contents.length + (groups (group.map .page ++ tasks)).length ≤ count) :
    let o := binding config host folder contents group
    (o.run tasks).finish.1 =
        resting config host folder "doc"
          (contents ++ (groups (group.map .page ++ tasks)).map (documentContent config host)) ∧
      documentAnswers config folder contents.length (groups (group.map .page ++ tasks)) =
        (group.map fun _ =>
          .ok (.file (folder.freeName "doc" (ending config) contents.length))) ++
            o.answers tasks ∧
      ∃ now, (o.run tasks).folder = folder.filed "doc" (ending config) now := by
  intro o
  -- A page moves from the tasks into the group, a finish moves the group into the contents.
  induction tasks generalizing contents group with
  | nil =>
    rw [List.append_nil] at few ⊢
    obtain ⟨now, document, shape⟩ := exists_binding config host folder contents group
    refine ⟨finish_binding accepts group few, ?_, now, congrArg Outbox.folder shape⟩
    rw [documentAnswers_pages, answers, List.append_nil]
  | cons task rest ih =>
    cases task with
    | finish =>
      rw [groups_pages_finish, List.length_append] at few
      let before := contents ++ (groups (group.map .page)).map (documentContent config host)
      have grown : before.length = contents.length + (groups (group.map .page)).length := by
        rw [List.length_append, List.length_map]
      have next : o.perform .finish = binding config host folder before [] :=
        finish_binding accepts group (by omega)
      obtain ⟨finished, answered, kept⟩ := ih before [] (by
        rw [List.map_nil, List.nil_append]
        omega)
      rw [List.map_nil, List.nil_append] at finished answered
      rw [run_cons, next, answers, next, groups_pages_finish]
      refine ⟨?_, ?_, kept⟩
      · rw [finished, List.map_append, List.append_assoc]
      · rw [documentAnswers_append, documentAnswers_pages, ← grown, answered]
        rfl
    | page s =>
      have longer : group.map Task.page ++ .page s :: rest =
          (group ++ [s]).map .page ++ rest := by simp
      rw [longer] at few ⊢
      have some : 0 < (groups ((group ++ [s]).map .page ++ rest)).length :=
        length_groups_pos (by simp) rest
      have delivered : o.deliver s = _ :=
        deliver_binding format multipage accepts (by omega) group s
      have next : o.perform (.page s) = binding config host folder contents (group ++ [s]) := by
        rw [perform, delivered]
      obtain ⟨finished, answered, kept⟩ := ih contents (group ++ [s]) few
      rw [run_cons, next, answers, next, delivered]
      refine ⟨finished, ?_, kept⟩
      rw [answered, List.map_append, List.append_assoc]
      rfl

end PinPrinter.Outbox
