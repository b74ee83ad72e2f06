/-!
Tables from texts to values that keep the order in which their keys were first put. A second
put for a key replaces the value and leaves the key in its place. The laws hold for tables built
by `put`, whose keys are distinct.
-/

set_option autoImplicit false

namespace Rehearsal

abbrev Table (A : Type) := List (String × A)

namespace Table

variable {A B : Type}

def get? (table : Table A) (key : String) : Option A :=
  (table.find? fun entry => entry.1 == key).map (·.2)

def has (table : Table A) (key : String) : Bool := table.any fun entry => entry.1 == key

def put : Table A -> String -> A -> Table A
  | [], key, value => [(key, value)]
  | entry :: rest, key, value =>
    if entry.1 == key then (key, value) :: rest else entry :: put rest key value

def remove (table : Table A) (key : String) : Table A := table.filter fun entry => entry.1 != key

def keys (table : Table A) : List String := table.map (·.1)

def mapValues (f : A -> B) (table : Table A) : Table B :=
  table.map fun entry => (entry.1, f entry.2)

/-- Puts every entry of `other` over `table`. -/
def putAll (table other : Table A) : Table A :=
  other.foldl (fun joined entry => joined.put entry.1 entry.2) table

def ofList (entries : List (String × A)) : Table A := putAll [] entries

@[simp] theorem get?_nil (key : String) : get? ([] : Table A) key = none := rfl

theorem get?_cons (entry : String × A) (rest : Table A) (key : String) :
    get? (entry :: rest) key = if entry.1 == key then some entry.2 else get? rest key := by
  by_cases same : entry.1 == key <;> simp [get?, same]

theorem get?_put (table : Table A) (key other : String) (value : A) :
    (table.put key value).get? other = if key == other then some value else table.get? other := by
  induction table with
  | nil => by_cases same : key == other <;> simp [put, get?_cons, same]
  | cons entry rest ih =>
    by_cases here : entry.1 == key
    · have located : entry.1 = key := by simpa using here
      by_cases same : key == other <;> simp [put, get?_cons, located, same]
    · by_cases same : key == other
      · have target : key = other := by simpa using same
        subst target
        simp [put, get?_cons, here, ih]
      · simp [put, get?_cons, here, ih, same]

theorem get?_remove (table : Table A) (key other : String) :
    (table.remove key).get? other = if key == other then none else table.get? other := by
  induction table with
  | nil => by_cases same : key == other <;> simp [remove]
  | cons entry rest ih =>
    by_cases here : entry.1 == key
    · have located : entry.1 = key := by simpa using here
      have dropped : remove (entry :: rest) key = remove rest key := by simp [remove, located]
      rw [dropped, ih, get?_cons]
      by_cases same : key == other <;> simp [located, same]
    · have kept : remove (entry :: rest) key = entry :: remove rest key := by
        simp [remove] at here ⊢
        simp [here]
      rw [kept, get?_cons, get?_cons, ih]
      by_cases same : key == other
      · have target : key = other := by simpa using same
        subst target
        simp [here]
      · simp [same]

section

variable {table : Table A} {key : String}

@[simp] theorem keys_append (table other : Table A) :
    keys (table ++ other) = table.keys ++ other.keys := List.map_append

theorem get?_append (table other : Table A) (key : String) :
    get? (table ++ other) key = (table.get? key).or (other.get? key) := by
  induction table with
  | nil => rfl
  | cons entry rest ih =>
    rw [List.cons_append, get?_cons, get?_cons, ih]
    split <;> rfl

theorem get?_eq_none (absent : key ∉ table.keys) : table.get? key = none := by
  induction table with
  | nil => rfl
  | cons entry rest ih =>
    obtain ⟨other, absent⟩ := not_or.mp (mt List.mem_cons.mpr absent)
    rw [get?_cons, if_neg (by simpa using Ne.symm other)]
    exact ih absent

theorem exists_get? (member : key ∈ table.keys) : ∃ value, table.get? key = some value := by
  induction table with
  | nil => cases member
  | cons entry rest ih =>
    rw [get?_cons]
    split
    · exact ⟨_, rfl⟩
    next other =>
      refine ih (((List.mem_cons.mp member).resolve_left fun same => other ?_))
      simpa using same.symm

theorem get?_member {value : A} (found : table.get? key = some value) : (key, value) ∈ table := by
  simp only [get?, Option.map_eq_some_iff] at found
  obtain ⟨⟨name, held⟩, among, rfl⟩ := found
  have same := List.find?_some among
  simp only [beq_iff_eq] at same
  exact same ▸ List.mem_of_find?_eq_some among

theorem mem_keys {value : A} (held : table.get? key = some value) : key ∈ table.keys :=
  List.mem_map_of_mem (get?_member held)

theorem has_iff : table.has key = true ↔ key ∈ table.keys := by
  simp only [has, List.any_eq_true, beq_iff_eq, keys, List.mem_map]

theorem has_eq_false (absent : key ∉ table.keys) : table.has key = false :=
  Bool.eq_false_iff.mpr (mt has_iff.mp absent)

theorem keys_put (value : A) (member : key ∈ table.keys) :
    (table.put key value).keys = table.keys := by
  induction table with
  | nil => cases member
  | cons entry rest ih =>
    rw [put]
    split
    next same => simp [keys, beq_iff_eq.mp same]
    next other =>
      have later := (List.mem_cons.mp member).resolve_left fun same => other (by simp [same])
      exact congrArg (entry.1 :: ·) (ih later)

theorem keys_put_new (value : A) (absent : key ∉ table.keys) :
    (table.put key value).keys = table.keys ++ [key] := by
  induction table with
  | nil => rfl
  | cons entry rest ih =>
    obtain ⟨other, later⟩ := not_or.mp (mt List.mem_cons.mpr absent)
    rw [put, if_neg (by simpa using Ne.symm other)]
    exact congrArg (entry.1 :: ·) (ih later)

theorem nodup_put (value : A) (distinct : table.keys.Nodup) : (table.put key value).keys.Nodup := by
  by_cases member : key ∈ table.keys
  · rwa [keys_put value member]
  · rw [keys_put_new value member, List.nodup_append]
    refine ⟨distinct, by simp, ?_⟩
    rintro name among _ last rfl
    exact member (List.mem_singleton.mp last ▸ among)

theorem keys_remove (table : Table A) (key : String) :
    (table.remove key).keys = table.keys.filter (· != key) := by
  rw [keys, keys, List.filter_map]
  rfl

theorem nodup_remove (key : String) (distinct : table.keys.Nodup) :
    (table.remove key).keys.Nodup :=
  keys_remove table key ▸ distinct.filter _

/-- A value put where it stands already changes nothing. -/
theorem put_same {value : A} (held : table.get? key = some value) :
    table.put key value = table := by
  induction table with
  | nil => cases held
  | cons entry rest ih =>
    rw [get?_cons] at held
    rw [put]
    split at held
    next here =>
      rw [if_pos here]
      cases held
      rw [← beq_iff_eq.mp here]
    next elsewhere => rw [if_neg elsewhere, ih held]

end

end Table

end Rehearsal
