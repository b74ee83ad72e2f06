import Rehearsal.Proofs.Settings.Documents
import Rehearsal.Settings

/-!
The layers of the settings. A name has its value from the first layer that has one: the variables,
the overlay, the settings table, the built-in values.
-/

set_option autoImplicit false

namespace Rehearsal

namespace Table

variable {A : Type} {table other : Table A} {key : String} {value : A}

theorem get?_putAll (table : Table A) (names : other.keys.Nodup) (key : String) :
    (table.putAll other).get? key = (other.get? key).or (table.get? key) := by
  induction other generalizing table with
  | nil => rfl
  | cons entry rest ih =>
    obtain ⟨fresh, names⟩ := List.nodup_cons.mp names
    change ((table.put entry.1 entry.2).putAll rest).get? key = _
    -- The entry that is put first counts unless a later one has its name, and `fresh` says no.
    rw [ih _ names, get?_put, get?_cons]
    split
    next same =>
      rw [← eq_of_beq same, get?_eq_none fresh]
      rfl
    next => rfl

theorem exists_get?_putAll (other : Table A) (held : table.get? key = some value) :
    ∃ value, (table.putAll other).get? key = some value := by
  induction other generalizing table value with
  | nil => exact ⟨value, held⟩
  | cons entry rest ih =>
    by_cases same : entry.1 == key
    · exact ih (by rw [get?_put, if_pos same])
    · exact ih (by rw [get?_put, if_neg same, held])

theorem get?_eq_some_iff (names : table.keys.Nodup) :
    table.get? key = some value ↔ (key, value) ∈ table := by
  constructor
  · exact get?_member
  · intro member
    induction table with
    | nil => cases member
    | cons entry rest ih =>
      obtain ⟨fresh, names⟩ := List.nodup_cons.mp names
      rw [get?_cons]
      rcases List.mem_cons.mp member with rfl | later
      · simp
      · have among : key ∈ keys rest := List.mem_map_of_mem later
        have other : ¬ entry.1 == key := by
          intro same
          rw [← eq_of_beq same] at among
          exact fresh among
        rw [if_neg other]
        exact ih names later

theorem nodup_ofList (entries : List (String × A)) : (ofList entries).keys.Nodup :=
  nodup_putAll entries List.nodup_nil

end Table

/-! ## Values that are read as tables -/

namespace Datum

variable {value : Datum} {items : List Datum} {fields : Table Datum}

theorem Distinct.putAll {table : Table Datum} {other : Table Datum}
    (distinct : Distinct (.object table)) (each : ∀ entry ∈ other, Distinct entry.2) :
    Distinct (.object (table.putAll other)) := by
  induction other generalizing table with
  | nil => exact distinct
  | cons entry rest ih =>
    obtain ⟨fresh, each⟩ := List.forall_mem_cons.mp each
    exact ih (distinct.put fresh) each

theorem items_distinct (distinct : value.Distinct) (read : value.items = .ok items) :
    Distinct (.list items) := by
  cases value with
  | list given =>
    cases read
    exact distinct
  | object given =>
    cases read
    refine .list fun item member => ?_
    obtain ⟨entry, -, rfl⟩ := List.mem_map.mp member
    exact .plain rfl
  | text given =>
    cases read
    refine .list fun item member => ?_
    obtain ⟨c, -, rfl⟩ := List.mem_map.mp member
    exact .plain rfl
  | _ => cases read

theorem toPair_distinct {position : Nat} {pair : String × Datum} (distinct : value.Distinct)
    (read : toPair position value = .ok pair) : pair.2.Distinct := by
  obtain ⟨items, listed, read⟩ := (bind_eq_ok ..).mp read
  split at read
  next key held =>
    obtain ⟨name, -, read⟩ := (bind_eq_ok ..).mp read
    cases read
    exact (items_distinct distinct listed).item held (by simp)
  next => cases read

theorem toPairs_distinct {position : Nat} {pairs : List (String × Datum)}
    (distinct : Distinct (.list items)) (read : toPairs position items = .ok pairs) :
    ∀ pair ∈ pairs, pair.2.Distinct := by
  induction items generalizing position pairs with
  | nil =>
    cases read
    simp
  | cons item rest ih =>
    obtain ⟨first, others⟩ := List.forall_mem_cons.mp distinct.item
    obtain ⟨pair, one, read⟩ := (bind_eq_ok ..).mp read
    obtain ⟨later, more, read⟩ := (bind_eq_ok ..).mp read
    cases read
    exact List.forall_mem_cons.mpr ⟨toPair_distinct first one, ih (.list others) more⟩

theorem toFields_distinct (distinct : value.Distinct) (read : value.toFields = .ok fields) :
    Distinct (.object fields) := by
  unfold toFields at read
  split at read
  next =>
    cases read
    exact distinct
  next =>
    obtain ⟨items, listed, read⟩ := (bind_eq_ok ..).mp read
    obtain ⟨pairs, paired, read⟩ := (bind_eq_ok ..).mp read
    cases read
    exact Distinct.empty.putAll (toPairs_distinct (items_distinct distinct listed) paired)

end Datum

open Datum (Distinct)

namespace Settings

variable {environment : Table String} {name text : String} {value : Datum}

/-! ## Variables -/

/-- A variable of this name stands for the setting. -/
structure Names (origin name : String) : Prop where
  other : origin ≠ overlayVariable
  spelled : ∃ rest, origin = variableMark ++ rest ∧ Text.lowercase rest = name

def Assigns (environment : Table String) (name text : String) : Prop :=
  ∃ origin, (origin, text) ∈ environment ∧ Names origin name

def Unambiguous (environment : Table String) : Prop :=
  environment.Pairwise fun first second => ∀ name, Names first.1 name → ¬ Names second.1 name

def isAssignment (entry : String × String) : Bool :=
  variableMark.toList.isPrefixOf entry.1.toList && entry.1 != overlayVariable

def assignment (entry : String × String) : String × Datum :=
  (Text.lowercase (String.ofList (entry.1.toList.drop variableMark.length)), .text entry.2)

def assignments (environment : Table String) : Table Datum :=
  (environment.filter isAssignment).map assignment

theorem ofVariables_eq (environment : Table String) :
    ofVariables environment = Table.ofList (assignments environment) := by
  rw [assignments, Table.ofList, Table.putAll, List.foldl_map]
  rfl

theorem names_iff (entry : String × String) :
    Names entry.1 name ↔ isAssignment entry = true ∧ name = (assignment entry).1 := by
  rw [isAssignment, Bool.and_eq_true, List.isPrefixOf_iff_prefix, bne_iff_ne]
  constructor
  · rintro ⟨other, rest, spelled, rfl⟩
    refine ⟨⟨⟨rest.toList, by rw [spelled, String.toList_append]⟩, other⟩, ?_⟩
    rw [assignment, spelled, String.toList_append, ← String.length_toList, List.drop_left,
      String.ofList_toList]
  · rintro ⟨⟨⟨rest, spelled⟩, other⟩, rfl⟩
    refine ⟨other, String.ofList rest, ?_, ?_⟩
    · rw [← String.toList_inj, String.toList_append, String.toList_ofList, spelled]
    · rw [assignment, ← spelled, ← String.length_toList, List.drop_left]

theorem mem_assignments :
    (name, value) ∈ assignments environment ↔ ∃ text, value = .text text ∧
      Assigns environment name text := by
  constructor
  · intro member
    obtain ⟨⟨origin, text⟩, among, same⟩ := List.mem_map.mp member
    obtain ⟨among, kept⟩ := List.mem_filter.mp among
    cases same
    exact ⟨text, rfl, origin, among, (names_iff (origin, text)).mpr ⟨kept, rfl⟩⟩
  · rintro ⟨text, rfl, origin, among, names⟩
    obtain ⟨kept, rfl⟩ := (names_iff (origin, text)).mp names
    exact List.mem_map.mpr ⟨_, List.mem_filter.mpr ⟨among, kept⟩, rfl⟩

theorem nodup_assignments (unambiguous : Unambiguous environment) :
    (assignments environment).keys.Nodup := by
  unfold assignments Table.keys List.Nodup
  rw [List.map_map, List.pairwise_map, List.pairwise_filter]
  refine unambiguous.imp fun {first second} apart one other same => ?_
  exact apart _ ((names_iff first).mpr ⟨one, rfl⟩) ((names_iff second).mpr ⟨other, same⟩)

theorem get?_ofVariables (unambiguous : Unambiguous environment) :
    (ofVariables environment).get? name = some value ↔ ∃ text, value = .text text ∧
      Assigns environment name text := by
  have names := nodup_assignments unambiguous
  rw [ofVariables_eq, Table.ofList, Table.get?_putAll [] names, Table.get?_nil, Option.or_none,
    Table.get?_eq_some_iff names, mem_assignments]

/-! ## Files -/

/-- The overlay of this name is asked for, or else chosen by the variable. -/
def Selects (asked : Option String) (environment : Table String) (name : String) : Prop :=
  name ≠ "" ∧
    (asked = some name ∨
      (asked = none ∨ asked = some "") ∧ environment.get? overlayVariable = some name)

theorem overlayName?_eq_some_iff {asked : Option String} :
    overlayName? asked environment = some name ↔ Selects asked environment name := by
  have filled : ∀ given : Option String,
      given.filter (fun text => !text.isEmpty) = some name ↔ name ≠ "" ∧ given = some name := by
    intro given
    simp [Option.filter_eq_some_iff, and_comm]
  have unfilled : asked.filter (fun text => !text.isEmpty) = none ↔
      asked = none ∨ asked = some "" := by
    cases asked <;> simp [Option.filter_eq_none_iff]
  rw [overlayName?, Selects, Option.or_eq_some_iff, filled, filled, unfilled, and_left_comm,
    ← and_or_left]

/-- The object that the table has under this name, or an empty one. -/
def Under (table : Table Datum) (name : String) (fields : Table Datum) : Prop :=
  table.get? name = some (.object fields) ∨ table.get? name = none ∧ fields = []

inductive Overlays (asked : Option String) (environment : Table String) (table : Table Datum) :
    Table Datum -> Prop where
  | unselected (unnamed : ∀ name, ¬ Selects asked environment name) :
      Overlays asked environment table []
  | selected {name : String} {overlays overlay : Table Datum}
      (named : Selects asked environment name) (among : Under table "env" overlays)
      (chosen : Under overlays name overlay) : Overlays asked environment table overlay

/-- The settings table and the overlay that a settings file gives. -/
inductive Layers (files : Files) (environment : Table String) (path : Option Path)
    (asked : Option String) : Table Datum -> Table Datum -> Prop where
  | missing (absent : files.contains (path.getD (Path.ofText "settings.toml")) = .ok false) :
      Layers files environment path asked [] []
  | read {bytes : ByteArray} {text : String} {document table overlay : Table Datum}
      (held : files.read (path.getD (Path.ofText "settings.toml")) = .ok bytes)
      (decoded : Text.decode bytes = .ok text) (read : Toml.read text = .ok document)
      (settings : ((document.get? "settings").getD (.object [])).toFields = .ok table)
      (overlays : Overlays asked environment table overlay) :
      Layers files environment path asked table overlay

variable {files : Files} {path : Option Path} {asked : Option String} {table overlay : Table Datum}
  {settings : Settings}

theorem Under.distinct {fields : Table Datum} (distinct : Distinct (.object table))
    (under : Under table name fields) : Distinct (.object fields) := by
  rcases under with held | ⟨-, rfl⟩
  · exact distinct.of_get? held
  · exact .empty

theorem Layers.distinct (layers : Layers files environment path asked table overlay) :
    Distinct (.object table) ∧ Distinct (.object overlay) := by
  cases layers with
  | missing => exact ⟨.empty, .empty⟩
  | @read _ _ document _ _ _ _ read settings overlays =>
    have whole : Distinct (.object document) := Toml.read_distinct read
    have given : Distinct ((document.get? "settings").getD (.object [])) := by
      cases held : document.get? "settings" with
      | none => exact .empty
      | some value => exact whole.of_get? held
    have distinct := Datum.toFields_distinct given settings
    cases overlays with
    | unselected => exact ⟨distinct, .empty⟩
    | selected _ among chosen => exact ⟨distinct, chosen.distinct (among.distinct distinct)⟩

theorem under_of_members {fields : Table Datum}
    (read : ((table.get? name).getD (.object [])).members = .ok fields) :
    Under table name fields := by
  cases held : table.get? name with
  | none =>
    rw [held] at read
    cases read
    exact .inr ⟨held, rfl⟩
  | some value =>
    rw [held] at read
    cases value with
    | object fields =>
      cases read
      exact .inl held
    | _ => cases read

theorem under_of_overlayFields {fields : Table Datum}
    (read : overlayFields ((table.get? name).getD (.object [])) = .ok fields) :
    Under table name fields := by
  apply under_of_members
  unfold overlayFields at read
  split at read
  next same => rwa [same]
  next => cases read

theorem overlays_of_ofFile {document given : Table Datum}
    (read : ofFile document (overlayName? asked environment) = .ok given) :
    ∃ table overlay,
      ((document.get? "settings").getD (.object [])).toFields = .ok table ∧
      Overlays asked environment table overlay ∧ given = (table.remove "env").putAll overlay := by
  obtain ⟨table, settings, read⟩ := (bind_eq_ok ..).mp read
  refine ⟨table, ?_⟩
  cases selected : overlayName? asked environment with
  | none =>
    rw [selected] at read
    cases read
    refine ⟨[], settings, .unselected fun name selects => ?_, rfl⟩
    rw [overlayName?_eq_some_iff.mpr selects] at selected
    cases selected
  | some name =>
    rw [selected] at read
    obtain ⟨overlays, among, read⟩ := (bind_eq_ok ..).mp read
    obtain ⟨overlay, chosen, read⟩ := (bind_eq_ok ..).mp read
    cases read
    exact ⟨overlay, settings, .selected (overlayName?_eq_some_iff.mp selected)
      (under_of_members among) (under_of_overlayFields chosen), rfl⟩

theorem lift_eq_ok {A : Type} {result : Except Fault A} {value : A} :
    Failure.lift result = .ok value ↔ result = .ok value :=
  mapError_eq_ok ..

theorem load_layers (loaded : load files environment path asked = .ok settings) :
    ∃ table overlay, Layers files environment path asked table overlay ∧
      ofFields (((table.remove "env").putAll overlay).putAll (ofVariables environment)) =
        .ok settings := by
  obtain ⟨here, contained, loaded⟩ := (bind_eq_ok ..).mp loaded
  dsimp only at loaded
  cases here with
  | false => exact ⟨[], [], .missing (lift_eq_ok.mp contained), loaded⟩
  | true =>
    obtain ⟨bytes, held, loaded⟩ := (bind_eq_ok ..).mp loaded
    obtain ⟨text, decoded, loaded⟩ := (bind_eq_ok ..).mp loaded
    obtain ⟨document, parsed, loaded⟩ := (bind_eq_ok ..).mp loaded
    obtain ⟨given, read, loaded⟩ := (bind_eq_ok ..).mp loaded
    obtain ⟨table, overlay, settings, overlays, rfl⟩ := overlays_of_ofFile (lift_eq_ok.mp read)
    exact ⟨table, overlay, .read (lift_eq_ok.mp held) (lift_eq_ok.mp decoded)
      (lift_eq_ok.mp parsed) settings overlays, loaded⟩

/-! ## The value of a name -/

/-- The value that the layers have for a name, from the first one that has it. -/
inductive Chosen (environment : Table String) (overlay table : Table Datum) (name : String) :
    Datum -> Prop where
  | variable {text : String} (assigned : Assigns environment name text) :
      Chosen environment overlay table name (.text text)
  | overlay {value : Datum} (free : ∀ text, ¬ Assigns environment name text)
      (held : overlay.get? name = some value) : Chosen environment overlay table name value
  | table {value : Datum} (free : ∀ text, ¬ Assigns environment name text)
      (unset : overlay.get? name = none) (held : table.get? name = some value) :
      Chosen environment overlay table name value
  | builtin {value : Datum} (free : ∀ text, ¬ Assigns environment name text)
      (unset : overlay.get? name = none) (left : table.get? name = none)
      (held : defaults.get? name = some value) : Chosen environment overlay table name value

theorem chosen_of_get? (unambiguous : Unambiguous environment)
    (layers : Layers files environment path asked table overlay) (other : name ≠ "env")
    (held : (defaults.putAll
      (((table.remove "env").putAll overlay).putAll (ofVariables environment))).get? name =
        some value) :
    Chosen environment overlay table name value := by
  -- Each layer is put over the one before, so the last one that has the name is the first to ask.
  obtain ⟨names, more⟩ := layers.distinct
  have settable : (ofVariables environment).keys.Nodup := by
    rw [ofVariables_eq]
    exact Table.nodup_ofList _
  have file := Table.nodup_putAll overlay (Table.nodup_remove "env" names.names)
  rw [Table.get?_putAll _ (Table.nodup_putAll _ file), Table.get?_putAll _ settable,
    Table.get?_putAll _ more.names, Table.get?_remove, if_neg (by simpa using other.symm)] at held
  cases assigned : (ofVariables environment).get? name with
  | some given =>
    rw [assigned] at held
    cases held
    obtain ⟨text, rfl, assigns⟩ := (get?_ofVariables unambiguous).mp assigned
    exact .variable assigns
  | none =>
    have free : ∀ text, ¬ Assigns environment name text := by
      intro text assigns
      rw [(get?_ofVariables unambiguous).mpr ⟨text, rfl, assigns⟩] at assigned
      cases assigned
    rw [assigned, Option.none_or] at held
    cases laid : overlay.get? name with
    | some given =>
      rw [laid] at held
      cases held
      exact .overlay free laid
    | none =>
      rw [laid, Option.none_or] at held
      cases set : table.get? name with
      | some given =>
        rw [set] at held
        cases held
        exact .table free laid set
      | none =>
        rw [set, Option.none_or] at held
        exact .builtin free laid set held

end Settings

end Rehearsal
