import PinPrinter.Proofs.Printer.Events
import PinPrinter.Proofs.Registers.Font
import PinPrinter.Proofs.Registers.View

/-! # The character map is never stale

The map of a printer is the code page of the active table slot, under the national set that was put
into it last. A set stays until the map is built afresh: when a slot is made active, when the active
slot is assigned another page, or by a reset. The map therefore depends on the history of the
printer, but only on the latest change of it, since every set takes all twelve of its positions.
-/

namespace PinPrinter

namespace NationalSet

/-- A map under a national set, if there is one. -/
def overlay (map : CharMap) : Option String → CharMap
  | none => map
  | some characters => patch map characters.toList

theorem length_of_mem_sets {characters : String} (listed : characters ∈ sets) :
    characters.toList.length = positions.length := by
  revert characters
  decide +kernel

theorem mem_sets_of_ofSelector? {selector : UInt8} {characters : String}
    (found : ofSelector? selector = some characters) : characters ∈ sets := by
  unfold ofSelector? at found
  split at found
  · exact List.mem_of_getElem? found
  · split at found
    · exact List.mem_of_getElem? found
    · cases found

/-! ## Reading a patched map -/

variable {map : CharMap} {characters : List Char}

theorem get_foldl_set_of_not_mem {entries : List (Fin 256 × Char)} {byte : Fin 256}
    (other : byte ∉ entries.map Prod.fst) :
    (entries.foldl (fun map entry => map.set entry.1.val entry.2 entry.1.isLt) map).get byte =
      map.get byte := by
  induction entries generalizing map with
  | nil => rfl
  | cons entry rest ih =>
    obtain ⟨differs, later⟩ := not_or.mp (mt List.mem_cons.mpr other)
    rw [List.foldl_cons, ih later]
    exact Vector.getElem_set_ne _ _ fun same => differs (Fin.ext same.symm)

theorem get_foldl_set_of_mem {entries : List (Fin 256 × Char)}
    (distinct : (entries.map Prod.fst).Nodup) {entry : Fin 256 × Char} (member : entry ∈ entries) :
    (entries.foldl (fun map entry => map.set entry.1.val entry.2 entry.1.isLt) map).get entry.1 =
      entry.2 := by
  induction entries generalizing map with
  | nil => cases member
  | cons first rest ih =>
    obtain ⟨fresh, later⟩ := List.nodup_cons.mp distinct
    rw [List.foldl_cons]
    rcases List.mem_cons.mp member with rfl | member
    · rw [get_foldl_set_of_not_mem fresh]
      exact Vector.getElem_set_self _
    · exact ih later member

/-- A patch leaves all other positions alone. -/
theorem get_patch_of_not_mem {byte : Fin 256} (other : byte ∉ positions) :
    (patch map characters).get byte = map.get byte := by
  apply get_foldl_set_of_not_mem
  intro member
  obtain ⟨entry, listed, rfl⟩ := List.mem_map.mp member
  exact other (List.of_mem_zip listed).1

/-- A patch puts the characters of a set at the positions, in their order. -/
theorem get_patch (whole : characters.length = positions.length) {i : Nat}
    (inside : i < positions.length) :
    characters[i]? = some ((patch map characters).get positions[i]) := by
  have keys : (positions.zip characters).map Prod.fst = positions :=
    List.map_fst_zip (Nat.le_of_eq whole.symm)
  have distinct : ((positions.zip characters).map Prod.fst).Nodup := by
    rw [keys]
    decide
  have bound : i < characters.length := whole ▸ inside
  have listed : (positions[i], characters[i]) ∈ positions.zip characters := by
    rw [← List.getElem_zip (h := by rw [List.length_zip]; omega)]
    exact List.getElem_mem _
  rw [List.getElem?_eq_getElem bound]
  exact congrArg some (get_foldl_set_of_mem distinct listed).symm

/-- A set takes the place of the one that is in the map. -/
theorem patch_overlay (whole : characters.length = positions.length) (installed : Option String) :
    patch (overlay map installed) characters = patch map characters := by
  apply Vector.ext
  intro index on
  let byte : Fin 256 := ⟨index, on⟩
  change (patch (overlay map installed) characters).get byte = (patch map characters).get byte
  by_cases taken : byte ∈ positions
  · obtain ⟨i, inside, at_⟩ := List.getElem_of_mem taken
    have shown (map : CharMap) : characters[i]? = some ((patch map characters).get positions[i]) :=
      get_patch whole inside
    rw [← at_]
    exact Option.some.inj ((shown (overlay map installed)).symm.trans (shown map))
  · rw [get_patch_of_not_mem taken, get_patch_of_not_mem taken]
    cases installed with
    | none => rfl
    | some characters => exact get_patch_of_not_mem taken

end NationalSet

/-! ## Changes of the map -/

/-- What happens to the character map. -/
inductive MapChange where
  | kept
  /-- Built afresh from the code page of the active slot. -/
  | rebuilt
  /-- Put under a national set. -/
  | patched (characters : String)
  deriving DecidableEq, Repr

namespace MapChange

/-- The national set that is in the map after some changes: that of the latest one that did not keep
the map, if it was not to build the map afresh. -/
def installed (changes : List MapChange) : Option String :=
  match (changes.filter (· ≠ .kept)).getLast? with
  | some (.patched characters) => some characters
  | _ => none

variable (changes : List MapChange)

theorem installed_kept : installed (changes ++ [.kept]) = installed changes := by
  simp [installed]

theorem installed_rebuilt : installed (changes ++ [.rebuilt]) = none := by
  simp [installed]

theorem installed_patched (characters : String) :
    installed (changes ++ [.patched characters]) = some characters := by
  simp [installed]

end MapChange

/-- The instructions that are about tables and national sets. -/
def Instruction.setsLetters : Instruction → Bool
  | .restart | .selectTable _ | .assignTable _ _ | .nationalSet _ => true
  | _ => false

namespace Registers

/-- What an instruction does to the character map. `ESC t` and `FS I` make a slot active, also the
one that is, when they name no other. An assignment (`ESC ( t`) or a national set (`ESC R`) with an
unknown selector is refused. -/
def mapChange (r : Registers) : Instruction → MapChange
  | .restart | .selectTable _ => .rebuilt
  | .assignTable slot selector =>
    if slot = r.activeTable.val ∧ (CodePage.ofSelector? selector).isSome then .rebuilt else .kept
  | .nationalSet selector =>
    match NationalSet.ofSelector? selector with
    | some characters => .patched characters
    | none => .kept
  | _ => .kept

/-- The registers that decide which characters are printed. -/
def lettering (r : Registers) : Vector Nat 4 × Fin 4 × CharMap :=
  (r.tables, r.activeTable, r.charMap)

/-! ## Registers that other instructions change -/

theorem pageless_lettering : Pageless lettering :=
  fun _ _ _ _ _ _ => rfl

theorem lettering_obey {instruction : Instruction} (other : instruction.setsLetters = false)
    (r : Registers) : (r.obey instruction).lettering = r.lettering := by
  cases instruction with
  | restart => cases other
  | selectTable slot => cases other
  | assignTable slot selector => cases other
  | nationalSet selector => cases other
  | pageLines _ | pageInches _ | pageUnits _ | pageFormat _ _ | bottomMargin _ | cancelMargins
  | rightMargin _ | leftMargin _ =>
    exact pageless_lettering.obey r rfl nofun
  | tabEvery axis count => cases axis <;> rfl
  | extraSpace count => exact view_ite rfl rfl
  | wideLine => exact view_ite rfl rfl
  | condensed => exact view_ite rfl rfl
  | wide on => cases on <;> exact view_ite rfl rfl
  | tall on => exact view_ite rfl rfl
  | underline on => cases on <;> rfl
  | _ => rfl

theorem lettering_control (r : Registers) (autofeed : Bool) (code : Control) :
    (r.control autofeed code).lettering = r.lettering :=
  Unstyled.control (fun _ _ _ _ => rfl) r autofeed code

theorem lettering_setTabs (r : Registers) (axis : TabAxis) (stops : List UInt8) :
    (r.setTabs axis stops).lettering = r.lettering := by
  cases axis <;> rfl

/-! ## The law of the map -/

/-- The slots hold code pages that have a selector, and the map is what some changes have left of
it. -/
structure Lettered (r : Registers) (changes : List MapChange) : Prop where
  tables : ∀ slot : Fin 4, r.tables.get slot ∈ CodePage.bySelector
  set : ∀ characters ∈ MapChange.installed changes, characters ∈ NationalSet.sets
  charMap : r.charMap =
    NationalSet.overlay (CodePage.charMap r.activePage) (MapChange.installed changes)

variable {r : Registers} {changes : List MapChange}

/-- Registers that are not about characters can change. -/
theorem Lettered.of_lettering (lettered : Lettered r changes) {next : Registers}
    (same : next.lettering = r.lettering) : Lettered next (changes ++ [.kept]) := by
  obtain ⟨tables, rest⟩ := Prod.mk.inj same
  obtain ⟨activeTable, charMap⟩ := Prod.mk.inj rest
  constructor
  · rw [tables]
    exact lettered.tables
  · rw [MapChange.installed_kept]
    exact lettered.set
  · rw [charMap, activePage, tables, activeTable, MapChange.installed_kept]
    exact lettered.charMap

/-- Built afresh, the map shows no national set. -/
theorem lettered_rebuilt (tables : ∀ slot : Fin 4, r.tables.get slot ∈ CodePage.bySelector)
    (charMap : r.charMap = CodePage.charMap r.activePage) : Lettered r (changes ++ [.rebuilt]) where
  tables := tables
  set := by
    rw [MapChange.installed_rebuilt]
    rintro _ ⟨⟩
  charMap := by
    rw [MapChange.installed_rebuilt]
    exact charMap

theorem lettered_powerOn (width height : Float) : Lettered (powerOn width height) [] where
  tables := by
    change ∀ slot : Fin 4, (#v[0, 437, 437, 437] : Vector Nat 4).get slot ∈ CodePage.bySelector
    decide
  set := by rintro _ ⟨⟩
  charMap := rfl

theorem Lettered.updateFont (lettered : Lettered r changes) : Lettered r.updateFont changes :=
  ⟨lettered.tables, lettered.set, lettered.charMap⟩

theorem Lettered.selectTable (lettered : Lettered r changes) (slot : Fin 4) :
    Lettered (r.selectTable slot) (changes ++ [.rebuilt]) := by
  rw [Registers.selectTable, dif_pos slot.isLt]
  exact lettered_rebuilt lettered.tables rfl

/-- A page is put into a slot. -/
theorem Lettered.tables_set (lettered : Lettered r changes) {page : Nat}
    (listed : page ∈ CodePage.bySelector) (slot : Fin 4) :
    ∀ other : Fin 4, (r.tables.set slot.val page).get other ∈ CodePage.bySelector := by
  intro other
  change (r.tables.set slot.val page)[other.val] ∈ CodePage.bySelector
  rw [Vector.getElem_set]
  split
  · exact listed
  · exact lettered.tables other

theorem Lettered.assignActive (lettered : Lettered r changes) {page : Nat}
    (listed : page ∈ CodePage.bySelector) :
    Lettered { r with
        tables := r.tables.set r.activeTable.val page r.activeTable.isLt
        charMap := CodePage.charMap page } (changes ++ [.rebuilt]) := by
  apply lettered_rebuilt (lettered.tables_set listed r.activeTable)
  exact congrArg CodePage.charMap (Vector.getElem_set_self _).symm

theorem Lettered.assignOther (lettered : Lettered r changes) {page : Nat}
    (listed : page ∈ CodePage.bySelector) (slot : Fin 4) (other : slot.val ≠ r.activeTable.val) :
    Lettered { r with tables := r.tables.set slot.val page } (changes ++ [.kept]) where
  tables := lettered.tables_set listed slot
  set := by
    rw [MapChange.installed_kept]
    exact lettered.set
  charMap := by
    have same : (r.tables.set slot.val page).get r.activeTable = r.activePage :=
      Vector.getElem_set_ne _ _ other
    rw [MapChange.installed_kept, activePage, same]
    exact lettered.charMap

/-- An assignment to another slot, or one that is refused, keeps the map. -/
theorem Lettered.assignTable (lettered : Lettered r changes) (slot : Nat) (selector : UInt8) :
    Lettered ((r.assignTable? slot selector).getD r) (changes ++
      [if slot = r.activeTable.val ∧ (CodePage.ofSelector? selector).isSome then .rebuilt
        else .kept]) := by
  have refused : Lettered r (changes ++ [.kept]) := lettered.of_lettering rfl
  unfold assignTable?
  cases known : CodePage.ofSelector? selector with
  | none =>
    rw [if_neg (by simp)]
    exact refused
  | some page =>
    have listed : page ∈ CodePage.bySelector := List.mem_of_getElem? known
    by_cases inside : slot < 4
    · by_cases active : slot = r.activeTable.val
      · subst active
        rw [if_pos ⟨rfl, rfl⟩]
        simp only [dif_pos inside, if_true, Option.getD_some]
        exact lettered.assignActive listed
      · rw [if_neg fun both => active both.1]
        simp only [dif_pos inside, if_neg active, Option.getD_some]
        exact lettered.assignOther listed ⟨slot, inside⟩ active
    · have elsewhere : slot ≠ r.activeTable.val := fun same => inside (same ▸ r.activeTable.isLt)
      rw [if_neg fun both => elsewhere both.1]
      simp only [dif_neg inside, Option.getD_none]
      exact refused

theorem Lettered.nationalSet (lettered : Lettered r changes) (selector : UInt8) :
    Lettered (r.obey (.nationalSet selector))
      (changes ++ [r.mapChange (.nationalSet selector)]) := by
  simp only [obey, mapChange, NationalSet.install?]
  cases found : NationalSet.ofSelector? selector with
  | none => exact lettered.of_lettering rfl
  | some characters =>
    have listed := NationalSet.mem_sets_of_ofSelector? found
    constructor
    · exact lettered.tables
    · rw [MapChange.installed_patched]
      rintro set ⟨⟩
      exact listed
    · have whole := NationalSet.length_of_mem_sets listed
      rw [MapChange.installed_patched]
      change NationalSet.patch r.charMap characters.toList = _
      rw [lettered.charMap, NationalSet.patch_overlay whole]
      rfl

theorem Lettered.obey (lettered : Lettered r changes) (instruction : Instruction) :
    Lettered (r.obey instruction) (changes ++ [r.mapChange instruction]) := by
  cases instruction with
  | restart =>
    exact lettered_rebuilt (lettered_powerOn _ _).tables (lettered_powerOn _ _).charMap
  | selectTable slot => exact (lettered.selectTable (slot.getD r.activeTable)).updateFont
  | assignTable slot selector => exact (lettered.assignTable slot selector).updateFont
  | nationalSet selector => exact lettered.nationalSet selector
  | _ => exact lettered.of_lettering (lettering_obey rfl r)

end Registers

namespace Printer

/-- What an event does to the character map. -/
def mapChange (p : Printer) : Event → MapChange
  | .byte _ byte =>
    match (p.interpreter.receive p.autofeed byte).2 with
    | some (.command c params) => p.registers.mapChange (.ofCommand c params)
    | _ => .kept
  | .reset | .resetHard => .rebuilt
  | .formFeed | .poll _ | .finish | .autofeed _ | .acknowledge => .kept

/-- What the events of a run do to the character map, one after the other. -/
def mapChanges (p : Printer) : List Event → List MapChange
  | [] => []
  | event :: rest => p.mapChange event :: (p.step event).mapChanges rest

variable {p : Printer} {changes : List MapChange}

theorem lettered_receive (lettered : p.registers.Lettered changes) (now : Nat) (byte : UInt8) :
    (p.step (.byte now byte)).registers.Lettered (changes ++ [p.mapChange (.byte now byte)]) := by
  unfold mapChange
  dsimp only
  rcases fed : p.interpreter.reader.feed (p.interpreter.registers.forceMsb byte) with
    ⟨reader, _ | action⟩
  · have received := Interpreter.receive_silent fed p.autofeed
    rw [step_silent received, received]
    exact lettered.of_lettering rfl
  · have received := Interpreter.receive_action fed p.autofeed
    rw [step_action received, received]
    cases action with
    | command c params =>
      change Registers.Lettered (Interpreter.obey _ (.ofCommand c params)).registers _
      rw [Interpreter.registers_obey]
      exact lettered.obey (.ofCommand c params)
    | control code => exact lettered.of_lettering (Registers.lettering_control _ _ _)
    | tabs axis stops => exact lettered.of_lettering (Registers.lettering_setTabs _ _ _)
    | print byte => exact lettered.of_lettering rfl
    | payload c data => exact lettered.of_lettering rfl
    | column bytes => exact lettered.of_lettering rfl

theorem lettered_step (lettered : p.registers.Lettered changes) (event : Event) :
    (p.step event).registers.Lettered (changes ++ [p.mapChange event]) := by
  have kept : p.registers.Lettered (changes ++ [.kept]) := lettered.of_lettering rfl
  have restarted : p.interpreter.restart.registers.Lettered (changes ++ [.rebuilt]) :=
    lettered.obey .restart
  cases event with
  | byte now byte => exact lettered_receive lettered now byte
  | poll now =>
    have same : (p.step (.poll now)).registers = p.registers :=
      congrArg Interpreter.registers (interpreter_step p (.poll now))
    rw [same]
    exact kept
  | reset => exact restarted
  | resetHard => exact restarted
  | formFeed => exact kept
  | finish => exact kept
  | autofeed on => exact kept
  | acknowledge => exact kept

theorem lettered_run (lettered : p.registers.Lettered changes) (events : List Event) :
    (p.run events).registers.Lettered (changes ++ p.mapChanges events) := by
  induction events generalizing p changes with
  | nil =>
    rw [mapChanges, List.append_nil]
    exact lettered
  | cons event rest ih =>
    rw [mapChanges, List.append_cons]
    exact ih (lettered_step lettered event)

/-- In a printer in use every slot holds a code page that has a selector. The character map shows
the page of the active slot, except for the twelve positions of a national set: these show the set
that was put in last, if the map was not built afresh since. -/
theorem charMap_run {config : Config} {host : Host} {folder : Folder} {start : Printer}
    (started : Printer.new config host folder = .ok start) (events : List Event) :
    let r := (start.run events).registers
    let page := CodePage.charMap (r.tables.get r.activeTable)
    (r.activeTable.val < 4 ∧ ∀ slot : Fin 4, r.tables.get slot ∈ CodePage.bySelector) ∧
      (∀ byte, byte ∉ NationalSet.positions → r.charMap.get byte = page.get byte) ∧
      match MapChange.installed (start.mapChanges events) with
      | none => r.charMap = page
      | some characters => characters ∈ NationalSet.sets ∧
          ∀ i, (inside : i < NationalSet.positions.length) →
            characters.toList[i]? = some (r.charMap.get NationalSet.positions[i]) := by
  intro r page
  have fresh : start.registers.Lettered [] := by
    obtain rfl := eq_powerOn_of_new started
    exact Registers.lettered_powerOn _ _
  have lettered : r.Lettered (start.mapChanges events) := lettered_run fresh events
  have charMap : r.charMap = NationalSet.overlay page _ := lettered.charMap
  refine ⟨⟨r.activeTable.isLt, lettered.tables⟩, ?_⟩
  rw [charMap]
  cases installed : MapChange.installed (start.mapChanges events) with
  | none => exact ⟨fun byte _ => rfl, rfl⟩
  | some characters =>
    have known : characters ∈ NationalSet.sets := lettered.set characters installed
    have whole := NationalSet.length_of_mem_sets known
    exact ⟨fun byte other => NationalSet.get_patch_of_not_mem other, known,
      fun i inside => NationalSet.get_patch whole inside⟩

/-- The French set goes when the active slot is assigned another page, the German one stays: a set
without a number is refused, and the page of another slot is not shown. -/
theorem charMap_run_letter :
    let host : Host := { launch := fun _ _ => .error "no programs", date := "2024-02-29 12:30:00" }
    let bytes : List UInt8 := [0x1B, 0x52, 0x01, 0x1B, 0x28, 0x74, 0x03, 0x00, 0x01, 0x03, 0x00,
      0x1B, 0x52, 0x02, 0x1B, 0x52, 0x14, 0x1B, 0x28, 0x74, 0x03, 0x00, 0x02, 0x07, 0x00]
    let start := powerOn .letter host {}
    let r := (start.run (bytes.map (.byte 0))).registers
    Printer.new .letter host {} = .ok start ∧
      r.tables.get r.activeTable = 850 ∧ r.charMap.get 0x5B = 'Ä' ∧
        ∀ byte, byte ∉ NationalSet.positions →
          r.charMap.get byte = (CodePage.charMap 850).get byte := by
  intro host bytes start r
  have started : Printer.new .letter host {} = .ok start := new_letter host {}
  have german : MapChange.installed (start.mapChanges (bytes.map (.byte 0))) =
      some "#$§ÄÖÜ^`äöüß" := by decide +kernel
  have page : r.tables.get r.activeTable = 850 := by decide +kernel
  obtain ⟨-, others, shown⟩ := charMap_run started (bytes.map (.byte 0))
  rw [german] at shown
  have bracket := shown.2 3 (by decide)
  exact ⟨started, page, (Option.some.inj bracket).symm, page ▸ others⟩

end Printer

end PinPrinter
