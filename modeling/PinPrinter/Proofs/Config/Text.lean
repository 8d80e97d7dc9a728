import Mathlib.Data.List.Perm.Basic
import Mathlib.Data.List.Nodup
import PinPrinter.Config.Text
import PinPrinter.Proofs.Json

/-! # Loading a configuration

The text of a configuration may lose some of its keys, have them in another order and gain keys that
are not known. What is loaded from it has the values of the keys that are left, and the defaults of
the others.
-/

namespace PinPrinter

/-- The members of an object. -/
def Json.members : Json → List (Option String × Json)
  | .object members => members
  | _ => []

namespace Config

variable {c d : Config} {members : List (Option String × Json)}

/-- The values of one configuration for some keys, and those of another for the rest. -/
def overlay (c d : Config) (kept : String → Bool) : Config where
  enabled := if kept "printer" then c.enabled else d.enabled
  dpi := if kept "dpi" then c.dpi else d.dpi
  width := if kept "width" then c.width else d.width
  height := if kept "height" then c.height else d.height
  output := if kept "printoutput" then c.output else d.output
  multipage := if kept "multipage" then c.multipage else d.multipage
  docpath := if kept "docpath" then c.docpath else d.docpath
  timeout := if kept "timeout" then c.timeout else d.timeout
  fontpath := if kept "fontpath" then c.fontpath else d.fontpath
  spooler := if kept "spooler" then c.spooler else d.spooler

theorem overlay_congr {kept kept' : String → Bool} (same : ∀ key ∈ keys, kept key = kept' key) :
    c.overlay d kept = c.overlay d kept' := by
  simp only [keys, List.forall_mem_cons] at same
  simp only [overlay, same]

theorem overlay_all : c.overlay d (fun _ => true) = c :=
  rfl

theorem overlay_overlay (kept kept' : String → Bool) :
    c.overlay (c.overlay d kept) kept' = c.overlay d fun key => kept' key || kept key := by
  have either {α : Type} (a b : Bool) (x y : α) :
      (if a then x else if b then x else y) = if a || b then x else y := by
    cases a <;> rfl
  simp only [overlay, either]

/-! ## One member -/

theorem readWord_natural (n : UInt16) : readWord (.natural n.toNat) = some n := by
  rw [readWord, if_pos n.toNat_lt, UInt16.ofNat_toNat]

theorem readLong_natural (n : UInt64) : readLong (.natural n.toNat) = some n := by
  rw [readLong, if_pos n.toNat_lt, UInt64.ofNat_toNat]

theorem readFormat_name (format : OutputFormat) :
    readFormat (.string (some format.name)) = some format :=
  OutputFormat.ofName?_name format

/-- A key is set to the value that it has in a configuration. -/
theorem set?_of_mem {key : String} {value : Json} (member : (some key, value) ∈ c.toJson.members)
    (d : Config) : d.set? key value = some (c.overlay d fun other => other == key) := by
  simp only [toJson, Json.members, List.mem_cons, List.not_mem_nil, or_false, Prod.mk.injEq,
    Option.some.injEq] at member
  obtain ⟨rfl, rfl⟩ | ⟨rfl, rfl⟩ | ⟨rfl, rfl⟩ | ⟨rfl, rfl⟩ | ⟨rfl, rfl⟩ | ⟨rfl, rfl⟩ | ⟨rfl, rfl⟩ |
    ⟨rfl, rfl⟩ | ⟨rfl, rfl⟩ | ⟨rfl, rfl⟩ := member
  all_goals
    simp [set?, overlay, readBool, readText, readWord_natural, readLong_natural, readFormat_name]

/-- The keys of the members of a configuration are the known ones. -/
theorem map_fst_members (c : Config) : c.toJson.members.map Prod.fst = keys.map some :=
  rfl

theorem set?_of_not_mem {key : String} (other : key ∉ keys) (d : Config) (value : Json) :
    d.set? key value = some d := by
  unfold set?
  split
  case h_11 => rfl
  all_goals exact absurd (by decide) other

/-! ## All members -/

/-- A member whose key is not known. -/
def IsUnknown (member : Option String × Json) : Prop :=
  ∃ key, member.1 = some key ∧ key ∉ keys

/-- The known keys among those of some members. -/
def knownKeys (members : List (Option String × Json)) : List String :=
  (members.filterMap Prod.fst).filter keys.contains

theorem knownKeys_cons_of_mem {key : String} (known : key ∈ keys) (value : Json)
    (rest : List (Option String × Json)) :
    knownKeys ((some key, value) :: rest) = key :: knownKeys rest :=
  List.filter_cons_of_pos (List.contains_iff_mem.mpr known)

theorem knownKeys_cons_of_not_mem {key : String} (other : key ∉ keys) (value : Json)
    (rest : List (Option String × Json)) :
    knownKeys ((some key, value) :: rest) = knownKeys rest :=
  List.filter_cons_of_neg (mt List.contains_iff_mem.mp other)

/-- Members of a configuration, each once, and members that are not known set the values of that
configuration, in whatever order they come. -/
theorem setAll?_eq {seen : List String}
    (each : ∀ member ∈ members, member ∈ c.toJson.members ∨ IsUnknown member)
    (once : (knownKeys members).Nodup) (known : ∀ key ∈ seen, key ∈ keys)
    (fresh : ∀ key ∈ knownKeys members, key ∉ seen) :
    d.setAll? seen members = some (c.overlay d (knownKeys members).contains) := by
  induction members generalizing d seen with
  | nil => rfl
  | cons member rest ih =>
    obtain ⟨key, value⟩ := member
    have later : ∀ member ∈ rest, member ∈ c.toJson.members ∨ IsUnknown member :=
      fun member inside => each member (.tail _ inside)
    obtain inside | ⟨key, rfl, other⟩ := each _ (List.mem_cons_self ..)
    · have named : (key, value).1 ∈ keys.map some := by
        rw [← map_fst_members c]
        exact List.mem_map_of_mem inside
      obtain ⟨key, isKey, ⟨⟩⟩ := List.mem_map.mp named
      rw [knownKeys_cons_of_mem isKey] at once fresh ⊢
      obtain ⟨missing, once⟩ := List.nodup_cons.mp once
      have unseen : ¬ seen.contains key = true :=
        mt List.contains_iff_mem.mp (fresh key (List.mem_cons_self ..))
      have known : ∀ other ∈ key :: seen, other ∈ keys := List.forall_mem_cons.mpr ⟨isKey, known⟩
      have fresh : ∀ other ∈ knownKeys rest, other ∉ key :: seen := by
        intro other inside
        rw [List.mem_cons, not_or]
        exact ⟨fun same => missing (same ▸ inside), fresh other (.tail _ inside)⟩
      rw [setAll?, if_neg unseen, set?_of_mem inside]
      dsimp only
      rw [if_pos (List.contains_iff_mem.mpr isKey), ih later once known fresh, overlay_overlay]
      refine congrArg some (overlay_congr fun other _ => ?_)
      rw [List.contains_cons, Bool.or_comm]
    · rw [knownKeys_cons_of_not_mem other] at once fresh ⊢
      have unseen : ¬ seen.contains key = true :=
        mt List.contains_iff_mem.mp (mt (known key) other)
      rw [setAll?, if_neg unseen, set?_of_not_mem other]
      dsimp only
      rw [if_neg (mt List.contains_iff_mem.mp other)]
      exact ih later once known fresh

/-! ## What is loaded -/

/-- The members of a configuration for some keys. -/
def membersFor (c : Config) (kept : String → Bool) : List (Option String × Json) :=
  c.toJson.members.filter fun member => member.1.any kept

theorem knownKeys_membersFor (c : Config) (kept : String → Bool) :
    knownKeys (c.membersFor kept) = keys.filter kept := by
  have named : (c.membersFor kept).filterMap Prod.fst = keys.filter kept := by
    calc (c.membersFor kept).filterMap Prod.fst
      _ = ((c.toJson.members.map Prod.fst).filter (·.any kept)).filterMap id := by
        rw [List.filter_map, List.filterMap_map]
        rfl
      _ = keys.filter kept := by
        rw [map_fst_members, List.filter_map, List.filterMap_map]
        exact List.filterMap_some ..
  rw [knownKeys, named, List.filter_eq_self]
  exact fun key inside => List.contains_iff_mem.mpr (List.mem_of_mem_filter inside)

theorem knownKeys_eq_nil {unknown : List (Option String × Json)}
    (others : ∀ member ∈ unknown, IsUnknown member) : knownKeys unknown = [] := by
  induction unknown with
  | nil => rfl
  | cons member rest ih =>
    obtain ⟨key, value⟩ := member
    obtain ⟨key, rfl, other⟩ := others _ (List.mem_cons_self ..)
    rw [knownKeys_cons_of_not_mem other]
    exact ih fun member inside => others member (.tail _ inside)

/-- In an object are members of a configuration for some keys, in whatever order and between others
that are not known. -/
theorem ofJson?_object {kept : String → Bool} {unknown : List (Option String × Json)}
    (others : ∀ member ∈ unknown, IsUnknown member)
    (order : members.Perm (c.membersFor kept ++ unknown)) :
    ofJson? (.object members) = some (c.overlay letter kept) := by
  have keyed : (knownKeys members).Perm (keys.filter kept) := by
    have same := (order.filterMap Prod.fst).filter keys.contains
    rw [List.filterMap_append, List.filter_append] at same
    have none := knownKeys_eq_nil others
    rw [knownKeys] at none
    rw [none, List.append_nil] at same
    rw [← knownKeys_membersFor c]
    exact same
  have each : ∀ member ∈ members, member ∈ c.toJson.members ∨ IsUnknown member := by
    intro member inside
    exact (List.mem_append.mp (order.subset inside)).imp List.mem_of_mem_filter (others member)
  have once : (knownKeys members).Nodup :=
    keyed.nodup_iff.mpr (List.Nodup.filter kept (by decide))
  have set : letter.setAll? [] members = _ := setAll?_eq each once nofun fun _ _ => List.not_mem_nil
  rw [ofJson?, set]
  refine congrArg some (overlay_congr fun key known => ?_)
  rw [Bool.eq_iff_iff, List.contains_iff_mem, keyed.mem_iff, List.mem_filter]
  exact and_iff_right known

theorem validate_eq_ok_iff : c.validate = .ok c ↔ c.dpi ≠ 0 ∧ c.width ≠ 0 ∧ c.height ≠ 0 := by
  rw [validate, fault?]
  split_ifs with dpi size
  · simp [dpi]
  · obtain width | height := size <;> simp [*]
  · simp [dpi, not_or.mp size]

/-- The defaults have a geometry, and so has an accepted configuration with some of them. -/
theorem validate_overlay (accepted : c.validate = .ok c) (kept : String → Bool) :
    (c.overlay letter kept).validate = .ok (c.overlay letter kept) := by
  obtain ⟨dpi, width, height⟩ := validate_eq_ok_iff.mp accepted
  have either (kept : Bool) {n default : UInt16} (value : n ≠ 0) (other : default ≠ 0) :
      (if kept then n else default) ≠ 0 := by
    cases kept with
    | true => exact value
    | false => exact other
  exact validate_eq_ok_iff.mpr
    ⟨either _ dpi (by decide), either _ width (by decide), either _ height (by decide)⟩

/-- The members of a configuration can be written. -/
theorem writable_members {member : Option String × Json} (inside : member ∈ c.toJson.members) :
    member.1.isSome = true ∧ member.2.Writable := by
  simp only [toJson, Json.members, List.mem_cons, List.not_mem_nil, or_false] at inside
  obtain rfl | rfl | rfl | rfl | rfl | rfl | rfl | rfl | rfl | rfl := inside
  all_goals exact ⟨rfl, by constructor⟩

theorem fromUTF8?_toUTF8 (text : String) : String.fromUTF8? text.toUTF8 = some text := by
  unfold String.fromUTF8?
  rw [String.toUTF8_eq_toByteArray, dif_pos text.isValidUTF8]
  rfl

/-- A configuration that was accepted is loaded again from its text. Keys may be missing there, and
then they have their defaults; their order is free, and keys that are not known are passed over. -/
theorem load_members (c : Config) (accepted : c.validate = .ok c) (kept : String → Bool)
    (unknown : List (Option String × Json)) (others : ∀ member ∈ unknown, IsUnknown member)
    (members : List (Option String × Json))
    (order : members.Perm (c.membersFor kept ++ unknown)) :
    (∀ text, Json.parse text = some (.object members) →
      load text = .ok (c.overlay letter kept)) ∧
    ((∀ member ∈ unknown, member.2.Writable) →
      let text := String.ofList (Json.object members).render
      load text = .ok (c.overlay letter kept) ∧
        loadBytes text.toUTF8 = .ok (c.overlay letter kept)) ∧
    ((∀ key ∈ keys, kept key = true) → c.overlay letter kept = c) := by
  have loaded : ∀ text, Json.parse text = some (.object members) →
      load text = .ok (c.overlay letter kept) := by
    intro text parsed
    rw [load, read, parsed, Option.bind_some, ofJson?_object others order]
    exact validate_overlay accepted kept
  refine ⟨loaded, ?_, ?_⟩
  · intro writable text
    have each : ∀ member ∈ members, member.1.isSome = true ∧ member.2.Writable := by
      intro member inside
      obtain own | other := List.mem_append.mp (order.subset inside)
      · exact writable_members (List.mem_of_mem_filter own)
      · obtain ⟨key, named, -⟩ := others member other
        exact ⟨Option.isSome_of_eq_some named, writable member other⟩
    have parsed : Json.parse text = some (.object members) := Json.parse_render <|
      .object (fun member inside => (each member inside).1) fun member inside =>
        (each member inside).2
    refine ⟨loaded text parsed, ?_⟩
    rw [loadBytes, fromUTF8?_toUTF8]
    exact loaded text parsed
  · intro all
    exact (overlay_congr all).trans overlay_all

/-- Four keys in the reverse order, behind two that are not known: one spells a known key with a
capital letter. -/
theorem load_members_reverse :
    let c : Config :=
      { dpi := 180, width := 80, output := .postScript, docpath := "a\\b\t\x22c\x22",
        timeout := 0xFFFFFFFFFFFFFFFF, spooler := "lpr -P dots" }
    let kept := fun key => ["width", "printoutput", "docpath", "timeout"].contains key
    let unknown := [(some "colour", .array [.null, .number "-1.5e3"]), (some "Dpi", .natural 7)]
    let members := (c.membersFor kept ++ unknown).reverse
    c.validate = .ok c ∧ (∀ member ∈ unknown, IsUnknown member) ∧
      members.Perm (c.membersFor kept ++ unknown) ∧
      load (String.ofList (Json.object members).render) = .ok
        { width := 80, output := .postScript, docpath := "a\\b\t\x22c\x22",
          timeout := 0xFFFFFFFFFFFFFFFF } := by
  intro c kept unknown members
  have accepted : c.validate = .ok c := rfl
  have others : ∀ member ∈ unknown, IsUnknown member := List.forall_mem_cons.mpr
    ⟨⟨"colour", rfl, by decide⟩, List.forall_mem_singleton.mpr ⟨"Dpi", rfl, by decide⟩⟩
  have order : members.Perm (c.membersFor kept ++ unknown) := List.reverse_perm _
  obtain ⟨-, written, -⟩ := load_members c accepted kept unknown others members order
  have whole : Json.IsWhole ['1'] := .digits (by decide) (Json.isDigits_singleton rfl)
  have fraction : Json.IsFraction ['.', '5'] := .digits (Json.isDigits_singleton rfl)
  have exponent : Json.IsExponent ['e', '3'] := .unsigned (.inl rfl) (Json.isDigits_singleton rfl)
  have number : Json.IsNumeral "-1.5e3".toList := .negative whole fraction exponent
  have writable : ∀ member ∈ unknown, member.2.Writable := List.forall_mem_cons.mpr
    ⟨.array (List.forall_mem_cons.mpr ⟨.null, List.forall_mem_singleton.mpr (.number number)⟩),
      List.forall_mem_singleton.mpr (.natural 7)⟩
  exact ⟨accepted, others, order, (written writable).1⟩

end Config

end PinPrinter
