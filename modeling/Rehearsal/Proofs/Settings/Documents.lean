import Rehearsal.Datum.Toml
import Rehearsal.Proofs.Record.FormReading

/-!
Names in documents. A reader puts each name of an object once, however deep the object lies, so
that what a name stands for does not depend on where it is looked for.
-/

set_option autoImplicit false

namespace Rehearsal

namespace Table

variable {A : Type} {table : Table A} {key : String}

theorem mem_put {value : A} {entry : String × A} (member : entry ∈ table.put key value) :
    entry = (key, value) ∨ entry ∈ table := by
  induction table with
  | nil => exact .inl (List.mem_singleton.mp member)
  | cons first rest ih =>
    rw [put] at member
    split at member
    · exact (List.mem_cons.mp member).imp_right (List.mem_cons_of_mem _)
    · rcases List.mem_cons.mp member with rfl | later
      · exact .inr (List.mem_cons_self ..)
      · exact (ih later).imp_right (List.mem_cons_of_mem _)

theorem nodup_putAll (other : Table A) (distinct : table.keys.Nodup) :
    (table.putAll other).keys.Nodup := by
  induction other generalizing table with
  | nil => exact distinct
  | cons entry rest ih => exact ih (nodup_put entry.2 distinct)

end Table

/-- No object in the value has a name twice. -/
inductive Datum.Distinct : Datum -> Prop where
  | plain {value : Datum} (single : Toml.isContainer value = false) : Distinct value
  | list {items : List Datum} (each : ∀ item ∈ items, Distinct item) : Distinct (.list items)
  | object {fields : Table Datum} (names : fields.keys.Nodup)
      (each : ∀ entry ∈ fields, Distinct entry.2) : Distinct (.object fields)

namespace Datum.Distinct

variable {fields : Table Datum} {items : List Datum} {key : String} {value : Datum}

theorem item (distinct : Distinct (.list items)) : ∀ item ∈ items, Distinct item := by
  cases distinct with
  | plain single => cases single
  | list each => exact each

theorem names (distinct : Distinct (.object fields)) : fields.keys.Nodup := by
  cases distinct with
  | plain single => cases single
  | object names _ => exact names

theorem entry (distinct : Distinct (.object fields)) : ∀ entry ∈ fields, Distinct entry.2 := by
  cases distinct with
  | plain single => cases single
  | object _ each => exact each

theorem nil : Distinct (.list []) := .list (by simp)

theorem empty : Distinct (.object []) := .object List.nodup_nil nofun

theorem of_get? (distinct : Distinct (.object fields)) (held : fields.get? key = some value) :
    Distinct value :=
  distinct.entry _ (Table.get?_member held)

theorem put (distinct : Distinct (.object fields)) (fresh : Distinct value) :
    Distinct (.object (fields.put key value)) := by
  refine .object (Table.nodup_put value distinct.names) fun entry member => ?_
  rcases Table.mem_put member with rfl | old
  · exact fresh
  · exact distinct.entry entry old

theorem concat (distinct : Distinct (.list items)) (fresh : Distinct value) :
    Distinct (.list (items ++ [value])) := by
  refine .list fun item member => ?_
  rcases List.mem_append.mp member with old | new
  · exact distinct.item item old
  · exact List.mem_singleton.mp new ▸ fresh

end Datum.Distinct

open Datum (Distinct)

namespace Toml

variable {lists : Bool} {change : Table Datum -> Option (Table Datum)} {path : List String}
  {fields result : Table Datum}

def Keeps (change : Table Datum -> Option (Table Datum)) : Prop :=
  ∀ fields result, Distinct (.object fields) → change fields = some result →
    Distinct (.object result)

/-- A change deep inside keeps names distinct, if it does so where it happens. -/
theorem Keeps.alterNest (keeps : Keeps change) (path : List String) :
    Keeps (alterNest lists change path) := by
  induction path with
  | nil => exact keeps
  | cons key rest ih =>
    intro fields result distinct changed
    rw [Toml.alterNest] at changed
    split at changed
    next =>
      obtain ⟨below, deeper, rfl⟩ := Option.map_eq_some_iff.mp changed
      exact distinct.put (ih _ _ .empty deeper)
    next found =>
      obtain ⟨below, deeper, rfl⟩ := Option.map_eq_some_iff.mp changed
      exact distinct.put (ih _ _ (distinct.of_get? found) deeper)
    next items found =>
      split at changed
      next below last =>
        obtain ⟨below, deeper, rfl⟩ := Option.map_eq_some_iff.mp changed
        have each := (distinct.of_get? found).item
        have deepest := each _ (List.mem_of_getLast? last)
        have others : Distinct (.list items.dropLast) :=
          .list fun item member => each item (List.dropLast_subset _ member)
        exact distinct.put (others.concat (ih _ _ deepest deeper))
      next => cases changed
    next => cases changed

theorem keeps_some : Keeps some := by
  rintro fields result distinct ⟨⟩
  exact distinct

theorem keeps_putNew {name : String} {value : Datum} (fresh : Distinct value) :
    Keeps fun nest => if nest.has name then none else some (nest.put name value) := by
  intro fields result distinct changed
  dsimp only at changed
  split at changed
  · cases changed
  · cases changed
    exact distinct.put fresh

theorem keeps_appendNest (key : String) : Keeps (appendNest key) := by
  intro fields result distinct changed
  rw [appendNest] at changed
  split at changed
  next =>
    cases changed
    exact distinct.put (.list fun item member => List.mem_singleton.mp member ▸ .empty)
  next found =>
    cases changed
    exact distinct.put ((distinct.of_get? found).concat .empty)
  next => cases changed

theorem putInline_distinct {value : Datum} {left : List Char} (fresh : Distinct value)
    (distinct : Distinct (.object fields))
    (put : putInline path value left fields = .ok result) : Distinct (.object result) := by
  rw [putInline] at put
  split at put
  next => cases put
  next =>
    split at put
    next => cases put
    next changed =>
      cases put
      exact (keeps_putNew fresh).alterNest _ _ _ distinct changed

/-! ## Readers -/

section

variable {text rest : List Char} {value : Datum}

theorem single_of_text {reading : Reading (List Char)}
    (read : (reading.map fun (chars, rest) => (Datum.text (String.ofList chars), rest)) =
      .ok (value, rest)) : isContainer value = false := by
  cases reading with
  | error found => cases read
  | ok taken =>
    cases read
    rfl

theorem single_of_moment (read : readMoment? text = some (.ok (value, rest))) :
    isContainer value = false := by
  unfold readMoment? at read
  split at read
  next date after taken =>
    dsimp only at read
    split at read
    · cases read
      rfl
    · cases read
  next =>
    obtain ⟨_, -, moment⟩ := Option.map_eq_some_iff.mp read
    cases moment
    rfl

theorem single_of_based (read : readBased? text = some (value, rest)) :
    isContainer value = false := by
  unfold readBased? at read
  split at read
  next =>
    obtain ⟨_, -, based⟩ := Option.bind_eq_some_iff.mp read
    dsimp only at based
    split at based
    · cases based
    · cases based
      rfl
  next => cases read

theorem single_of_decimal (read : readDecimal? text = some (.ok (value, rest))) :
    isContainer value = false := by
  unfold readDecimal? at read
  dsimp only at read
  -- Which digits stand before the point decides nothing here.
  split at read
  all_goals
    split at read
    next => cases read
    next =>
      split at read
      next =>
        split at read
        next => cases read
        next =>
          cases read
          rfl
      next =>
        cases read
        rfl

theorem single_of_special (read : readSpecial? text = some (value, rest)) :
    isContainer value = false := by
  obtain ⟨entry, -, special⟩ := List.exists_of_findSome?_eq_some read
  dsimp only at special
  split at special
  · cases special
    rfl
  · cases special

end

/-- What the readers of values, of lists and of pairs read with this fuel has distinct names. -/
structure ReadsDistinct (fuel : Nat) : Prop where
  values : ∀ text value rest, readValue fuel text = .ok (value, rest) → Distinct value
  lists : ∀ items text value rest, Distinct (.list items) →
    readItems fuel items text = .ok (value, rest) → Distinct value
  objects : ∀ fields marks text value rest, Distinct (.object fields) →
    readPairs fuel fields marks text = .ok (value, rest) → Distinct value

namespace ReadsDistinct

variable {fuel : Nat} (below : ReadsDistinct fuel) {text rest : List Char} {value : Datum}
  {items : List Datum}

include below

theorem readValue_succ (read : readValue (fuel + 1) text = .ok (value, rest)) :
    Distinct value := by
  unfold readValue at read
  dsimp only at read
  split at read
  · exact .plain (single_of_text read)
  · exact .plain (single_of_text read)
  · exact .plain (single_of_text read)
  · exact .plain (single_of_text read)
  · split at read
    · cases read
    · cases read
      exact .nil
    · exact below.lists _ _ _ _ .nil read
  · split at read
    · cases read
      exact .empty
    · exact below.objects _ _ _ _ _ .empty read
  · split at read
    · cases read
      exact .plain rfl
    · split at read
      · cases read
        exact .plain rfl
      · split at read
        next reading moment =>
          subst read
          exact .plain (single_of_moment moment)
        next =>
          split at read
          next found based =>
            cases read
            exact .plain (single_of_based based)
          next =>
            split at read
            next reading decimal =>
              subst read
              exact .plain (single_of_decimal decimal)
            next =>
              split at read
              next found special =>
                cases read
                exact .plain (single_of_special special)
              next => cases read

theorem readItems_succ (distinct : Distinct (.list items))
    (read : readItems (fuel + 1) items text = .ok (value, rest)) : Distinct value := by
  rw [readItems] at read
  split at read
  next => cases read
  next item after first =>
    -- Items are collected in reverse.
    have more : Distinct (.list (item :: items)) :=
      .list (List.forall_mem_cons.mpr ⟨below.values _ _ _ first, distinct.item⟩)
    have closed : Distinct (.list (item :: items).reverse) :=
      .list fun item member => more.item item (List.mem_reverse.mp member)
    split at read
    · cases read
    · cases read
      exact closed
    · split at read
      · cases read
      · cases read
        exact closed
      · exact below.lists _ _ _ _ more read
    · cases read

theorem readPairs_succ {marks : Table Marks} (distinct : Distinct (.object fields))
    (read : readPairs (fuel + 1) fields marks text = .ok (value, rest)) : Distinct value := by
  rw [readPairs] at read
  split at read
  next => cases read
  next path after named =>
    split at read
    next after =>
      split at read
      next => cases read
      next held after first =>
        split at read
        next => cases read
        next =>
          split at read
          next => cases read
          next result put =>
            have grown := putInline_distinct (below.values _ _ _ first) distinct put
            split at read
            · cases read
              exact grown
            · exact below.objects _ _ _ _ _ grown read
            · cases read
    next => cases read

end ReadsDistinct

theorem readsDistinct (fuel : Nat) : ReadsDistinct fuel := by
  induction fuel with
  | zero =>
    constructor
    · intro text value rest read
      cases read
    · intro items text value rest distinct read
      cases read
    · intro fields marks text value rest distinct read
      cases read
  | succ fuel below =>
    constructor
    · intro text value rest
      exact below.readValue_succ
    · intro items text value rest
      exact below.readItems_succ
    · intro fields marks text value rest
      exact below.readPairs_succ

/-! ## Statements -/

variable {draft next : Draft} {text rest : List Char}

theorem openTable_distinct (distinct : Distinct (.object draft.fields))
    (read : openTable draft text = .ok (next, rest)) : Distinct (.object next.fields) := by
  unfold openTable at read
  dsimp only at read
  split at read
  next => cases read
  next path after named =>
    split at read
    next => cases read
    next =>
      split at read
      next => cases read
      next fields opened =>
        split at read
        · cases read
          exact keeps_some.alterNest _ _ _ distinct opened
        · cases read

theorem openListItem_distinct (distinct : Distinct (.object draft.fields))
    (read : openListItem draft text = .ok (next, rest)) : Distinct (.object next.fields) := by
  unfold openListItem at read
  dsimp only at read
  split at read
  next => cases read
  next path after named =>
    split at read
    next => cases read
    next =>
      split at read
      next => cases read
      next fields opened =>
        split at read
        · cases read
          exact (keeps_appendNest _).alterNest _ _ _ distinct opened
        · cases read

theorem readPair_distinct (distinct : Distinct (.object draft.fields))
    (read : readPair draft text = .ok (next, rest)) : Distinct (.object next.fields) := by
  unfold readPair at read
  split at read
  next => cases read
  next key after named =>
    dsimp only at read
    split at read
    next => cases read
    next value after first =>
      split at read
      next => cases read
      next =>
        split at read
        next => cases read
        next =>
          split at read
          next => cases read
          next fields put =>
            cases read
            have fresh := (readsDistinct _).values _ _ _ first
            exact (keeps_putNew fresh).alterNest _ _ _ distinct put
  next => cases read

theorem readStatement_distinct (distinct : Distinct (.object draft.fields))
    (read : readStatement draft text = .ok (next, rest)) : Distinct (.object next.fields) := by
  have settled : Distinct (.object draft.settle.fields) := distinct
  unfold readStatement at read
  split at read
  · exact openListItem_distinct settled read
  · exact openTable_distinct settled read
  · cases read
    exact distinct
  · split at read
    · exact readPair_distinct distinct read
    · cases read
  · cases read
    exact distinct

theorem readStatements_distinct {fuel : Nat} {fields : Table Datum}
    (distinct : Distinct (.object draft.fields))
    (read : readStatements fuel draft text = .ok fields) : Distinct (.object fields) := by
  induction fuel generalizing draft text with
  | zero =>
    cases read
    exact distinct
  | succ fuel ih =>
    rw [readStatements] at read
    split at read
    · cases read
      exact distinct
    · exact ih distinct read
    · split at read
      next => cases read
      next draft after stated =>
        have kept := readStatement_distinct distinct stated
        split at read
        · cases read
        · cases read
          exact kept
        · exact ih kept read
        · cases read

/-- A document that could be read names everything once. -/
theorem read_distinct {text : String} {document : Table Datum}
    (read : Toml.read text = .ok document) : Distinct (.object document) := by
  unfold Toml.read at read
  refine readStatements_distinct ?_ ((mapError_eq_ok ..).mp read)
  exact .empty

end Toml

end Rehearsal
