import Rehearsal.Proofs.Catalog.References

/-!
The order of an element's candidates. A list of locators makes one candidate of each entry, and
the candidates are sorted by their ordinals, those of equal ordinals as they are listed. An entry
alone may give its ordinal under a second key; in a list that key is passed over.
-/

set_option autoImplicit false

namespace Rehearsal

namespace Candidate

variable {entry : Table Datum} {position : Nat} {candidate : Candidate}

/-- What an entry makes on its own account. Its place in the list counts only if it says nothing
of its place. -/
def authored (position : Nat) (entry : Table Datum) : Except Failure Candidate :=
  if entry.has "ordinal" || entry.has "index" then parse entry
  else parse (entry.put "ordinal" (.int position))

structure Describes (entry : Table Datum) (candidate : Candidate) : Prop where
  strategy : (strategyOf entry).text?.bind Strategy.ofLabel? = some candidate.strategy
  ordinal : (ordinalOf entry).toInt = .ok candidate.ordinal
  value : (entry.get? "value").map Datum.written = some (.ok candidate.value)

theorem refuse_ne_ok {A : Type} (entry : Table Datum) (broken : List Violation) (value : A) :
    refuse entry broken ≠ .ok value :=
  then_throw_ne_ok _ _ _

theorem parse_eq_ok : parse entry = .ok candidate ↔ Describes entry candidate := by
  constructor
  · intro parsed
    simp only [parse] at parsed
    split at parsed
    · obtain ⟨_, -, thrown⟩ := (bind_eq_ok ..).mp parsed
      cases thrown
    next strategy known =>
      split at parsed
      · split at parsed
        · exact absurd parsed (refuse_ne_ok _ _ _)
        · cases parsed
      next ordinal placed =>
        split at parsed
        · exact absurd parsed (refuse_ne_ok _ _ _)
        · exact absurd parsed (refuse_ne_ok _ _ _)
        next value written =>
          split at parsed
          · exact absurd parsed (refuse_ne_ok _ _ _)
          next natural =>
            cases parsed
            have whole : (ordinal.toNat : Int) = ordinal := Int.toNat_of_nonneg (by omega)
            exact ⟨known, placed.trans (congrArg Except.ok whole.symm), written⟩
  · rintro ⟨known, placed, written⟩
    have natural : ¬ (candidate.ordinal : Int) < 0 := by omega
    simp only [parse, known, placed, written, if_neg natural]
    rfl

theorem describes_put : Describes (entry.put "ordinal" (.int position)) candidate ↔
    candidate.ordinal = position ∧
      (strategyOf entry).text?.bind Strategy.ofLabel? = some candidate.strategy ∧
      (entry.get? "value").map Datum.written = some (.ok candidate.value) := by
  have strategy : strategyOf (entry.put "ordinal" (.int position)) = strategyOf entry := by
    simp [strategyOf, Table.get?_put]
  have value : (entry.put "ordinal" (.int position)).get? "value" = entry.get? "value" := by
    simp [Table.get?_put]
  have placed : (ordinalOf (entry.put "ordinal" (.int position))).toInt =
      .ok (candidate.ordinal : Int) ↔ candidate.ordinal = position := by
    simp [ordinalOf, Table.get?_put, Datum.toInt, eq_comm, Int.ofNat_inj]
  constructor
  · rintro ⟨known, ordinal, written⟩
    exact ⟨placed.mp ordinal, strategy ▸ known, value ▸ written⟩
  · rintro ⟨ordinal, known, written⟩
    exact ⟨strategy.symm ▸ known, placed.mpr ordinal, value.symm ▸ written⟩

end Candidate

namespace Page

open Candidate (authored Describes)

variable {position : Nat} {entry : Datum} {fields : Table Datum} {candidate : Candidate}

/-- The same candidates in ascending order; those of one ordinal are still as they are listed. -/
structure SortsStably (listed sorted : List Candidate) : Prop where
  same : sorted.Perm listed
  ascending : sorted.Pairwise fun earlier later => earlier.ordinal ≤ later.ordinal
  stable : ∀ ordinal, sorted.filter (·.ordinal == ordinal) = listed.filter (·.ordinal == ordinal)

theorem pairwise_sortCandidates (candidates : List Candidate) :
    (sortCandidates candidates).Pairwise fun earlier later => earlier.ordinal ≤ later.ordinal := by
  cases candidates with
  | nil => simp [sortCandidates]
  | cons first rest => exact (ranked_sortCandidates (List.cons_ne_nil first rest)).2

theorem sortsStably_sortCandidates (candidates : List Candidate) :
    SortsStably candidates (sortCandidates candidates) where
  same := List.mergeSort_perm _ _
  ascending := pairwise_sortCandidates candidates
  stable ordinal := by
    have same : (sortCandidates candidates).Perm candidates := List.mergeSort_perm _ _
    have level : (candidates.filter (·.ordinal == ordinal)).Pairwise fun earlier later =>
        decide (earlier.ordinal ≤ later.ordinal) = true := by
      refine List.pairwise_of_forall_mem_list fun earlier first later second => ?_
      have early := (List.mem_filter.mp first).2
      have late := (List.mem_filter.mp second).2
      simp only [beq_iff_eq] at early late
      simp [early, late]
    -- Candidates of one ordinal are in order as they are listed, so sorting leaves them so.
    have kept : (candidates.filter (·.ordinal == ordinal)).Sublist (sortCandidates candidates) := by
      refine List.sublist_mergeSort ?_ ?_ level List.filter_sublist
      · intro first second third
        simp only [decide_eq_true_eq]
        omega
      · intro first second
        simp only [Bool.or_eq_true, decide_eq_true_eq]
        omega
    have filtered := kept.filter (·.ordinal == ordinal)
    rw [List.filter_filter] at filtered
    refine (List.Sublist.eq_of_length ?_ (same.filter _).length_eq.symm).symm
    simpa using filtered

/-! ## One entry -/

theorem readCandidate_eq_ok : readCandidate position entry = .ok candidate ↔
    ∃ fields, entry.toFields = .ok fields ∧
      Candidate.parse (if fields.has "ordinal" then fields
        else fields.put "ordinal" (.int position)) = .ok candidate := by
  simp only [readCandidate, bind_eq_ok, Failure.lift, mapError_eq_ok]

/-- In a list an entry makes what it makes alone, unless it gives its place under the second key
and is elsewhere. -/
theorem authored_iff (given : entry.toFields = .ok fields)
    (read : readCandidate position entry = .ok candidate) :
    authored position fields = .ok candidate ↔
      (fields.has "ordinal" = false → ∀ index, fields.get? "index" = some index →
        index.toInt = .ok (position : Int)) := by
  obtain ⟨same, again, parsed⟩ := readCandidate_eq_ok.mp read
  rw [given] at again
  cases again
  cases placed : fields.has "ordinal" with
  | true =>
    rw [placed, if_pos rfl] at parsed
    simp [authored, placed, parsed]
  | false =>
    rw [placed, if_neg Bool.false_ne_true] at parsed
    cases indexed : fields.get? "index" with
    | none =>
      have missing : fields.has "index" = false := by
        refine Table.has_eq_false fun member => ?_
        obtain ⟨_, held⟩ := Table.exists_get? member
        cases indexed.symm.trans held
      simp [authored, placed, missing, parsed]
    | some index =>
      have present : fields.has "index" = true := Table.has_iff.mpr (Table.mem_keys indexed)
      have unplaced : fields.get? "ordinal" = none :=
        Table.get?_eq_none fun member => by simp [Table.has_iff.mpr member] at placed
      have ordinal : Candidate.ordinalOf fields = index := by
        simp only [Candidate.ordinalOf, unplaced, indexed]
      obtain ⟨same, known, written⟩ := Candidate.describes_put.mp (Candidate.parse_eq_ok.mp parsed)
      simp only [authored, placed, present, Bool.false_or, if_true, Candidate.parse_eq_ok,
        forall_const, Option.some.injEq, forall_eq']
      rw [← same]
      constructor
      · exact fun describes => ordinal ▸ describes.ordinal
      · exact fun indexes => ⟨known, ordinal.symm ▸ indexes, written⟩

/-! ## A list of entries -/

theorem readCandidates_getElem? {items : List Datum} {made : List Candidate}
    (read : readCandidates position items = .ok made) {place : Nat}
    (listed : items[place]? = some entry) :
    ∃ candidate, made[place]? = some candidate ∧
      readCandidate (position + place) entry = .ok candidate := by
  induction items generalizing position place made with
  | nil => cases listed
  | cons item rest ih =>
    obtain ⟨first, taken, read⟩ := (bind_eq_ok ..).mp read
    obtain ⟨others, readOthers, read⟩ := (bind_eq_ok ..).mp read
    cases read
    cases place with
    | zero =>
      cases listed
      exact ⟨first, rfl, taken⟩
    | succ place =>
      obtain ⟨candidate, found, read⟩ := ih readOthers listed
      refine ⟨candidate, found, ?_⟩
      rwa [Nat.add_comm place, ← Nat.add_assoc]

theorem sorted_of_readElement {page name : String} {element : Datum} {locators : List Datum}
    {candidates : List Candidate} (listed : (locatorsOf element).items = .ok locators)
    (read : readElement page name element = .ok candidates) :
    ∃ made, readCandidates 0 locators = .ok made ∧ candidates = sortCandidates made := by
  cases truthy : (locatorsOf element).truthy with
  | false =>
    simp only [readElement, truthy] at read
    cases read
  | true =>
    simp only [readElement, truthy] at read
    obtain ⟨items, given, read⟩ := (bind_eq_ok ..).mp read
    obtain ⟨made, readMade, sorted⟩ := (bind_eq_ok ..).mp read
    rw [Failure.lift, mapError_eq_ok, listed] at given
    cases given
    exact ⟨made, readMade, (Except.ok.inj sorted).symm⟩

end Page

/-! ## Elements of a catalog -/

namespace Catalog

/-- What a catalog is read from holds these locators for an element. -/
def Lists (fields : Table Datum) (page element : String) (locators : List Datum) : Prop :=
  ∃ pages value held elements given,
    Datum.membersOrNone (fields.get? "pages") = .ok pages ∧ pages.get? page = some value ∧
    value.members = .ok held ∧ Datum.membersOrNone (held.get? "elements") = .ok elements ∧
    elements.get? element = some given ∧ (Page.locatorsOf given).items = .ok locators

theorem get?_readAll {A : Type} {read : String -> Datum -> Except Failure A}
    {given : Table Datum} {all : Table A} (passed : readAll read given = .ok all) {name : String}
    {value : Datum} (held : given.get? name = some value) :
    ∃ result, all.get? name = some result ∧ read name value = .ok result := by
  induction given generalizing all with
  | nil => cases held
  | cons entry rest ih =>
    obtain ⟨first, taken, passed⟩ := (bind_eq_ok ..).mp passed
    obtain ⟨others, readOthers, passed⟩ := (bind_eq_ok ..).mp passed
    cases passed
    rw [Table.get?_cons] at held ⊢
    split at held
    next same =>
      cases held
      exact ⟨first, if_pos same, beq_iff_eq.mp same ▸ taken⟩
    next other =>
      rw [if_neg other]
      exact ih readOthers held

variable {catalog : Catalog} {files : Files} {base : Path} {fields : Table Datum}

theorem readElement_of_lists (read : ofFields files base fields = .ok catalog)
    {page element : String} {locators : List Datum} (lists : Lists fields page element locators) :
    ∃ candidates given, catalog.candidates page element = .ok candidates ∧
      (Page.locatorsOf given).items = .ok locators ∧
      Page.readElement page element given = .ok candidates := by
  obtain ⟨pages, value, held, elements, given, paged, here, known, listed, among, located⟩ := lists
  obtain ⟨members, first, read⟩ := (bind_eq_ok ..).mp read
  obtain ⟨all, readPages, read⟩ := (bind_eq_ok ..).mp read
  obtain ⟨_, -, read⟩ := (bind_eq_ok ..).mp read
  obtain ⟨tests, -, read⟩ := (bind_eq_ok ..).mp read
  obtain ⟨_, -, read⟩ := (bind_eq_ok ..).mp read
  obtain ⟨params, -, read⟩ := (bind_eq_ok ..).mp read
  obtain ⟨⟨⟩, -, read⟩ := (bind_eq_ok ..).mp read
  cases read
  rw [Failure.lift, mapError_eq_ok, paged] at first
  cases first
  obtain ⟨found, stands, made⟩ := get?_readAll readPages here
  obtain ⟨own, second, made⟩ := (bind_eq_ok ..).mp made
  obtain ⟨parts, third, made⟩ := (bind_eq_ok ..).mp made
  obtain ⟨table, readTable, made⟩ := (bind_eq_ok ..).mp made
  obtain ⟨path, -, made⟩ := (bind_eq_ok ..).mp made
  cases made
  rw [Failure.lift, mapError_eq_ok, known] at second
  cases second
  rw [Failure.lift, mapError_eq_ok, listed] at third
  cases third
  rw [Page.readElements_eq_readAll] at readTable
  obtain ⟨candidates, kept, taken⟩ := get?_readAll readTable among
  refine ⟨candidates, given, (bind_eq_ok ..).mpr ⟨⟨page, path, table⟩, ?_, ?_⟩, located, taken⟩
  · simp only [Catalog.page, stands]
  · simp only [Page.candidates, kept]

/-- Each entry of an element's list makes one candidate, and these are sorted by their ordinals,
equal ones as they are listed. It is what the entry makes on its own account, exactly if that has
an ordinal, or no place at all, or its place in the list under the second key. -/
theorem candidates_as_authored_iff (read : ofFields files base fields = .ok catalog)
    {page element : String} {locators : List Datum} (lists : Lists fields page element locators) :
    ∃ candidates made, catalog.candidates page element = .ok candidates ∧
      Page.SortsStably made candidates ∧ made.length = locators.length ∧
      ∀ place entry, locators[place]? = some entry → ∃ said candidate,
        entry.toFields = .ok said ∧ made[place]? = some candidate ∧
        Page.readCandidate place entry = .ok candidate ∧
        (said.has "ordinal" = false → candidate.ordinal = place) ∧
        (Candidate.authored place said = .ok candidate ↔
          (said.has "ordinal" = false → ∀ index, said.get? "index" = some index →
            index.toInt = .ok (place : Int))) := by
  obtain ⟨candidates, given, found, listed, taken⟩ := readElement_of_lists read lists
  obtain ⟨made, readMade, rfl⟩ := Page.sorted_of_readElement listed taken
  refine ⟨_, made, found, Page.sortsStably_sortCandidates made, Page.readCandidates_length readMade,
    fun place entry among => ?_⟩
  obtain ⟨candidate, stands, own⟩ := Page.readCandidates_getElem? readMade among
  rw [Nat.zero_add] at own
  obtain ⟨said, gives, parsed⟩ := Page.readCandidate_eq_ok.mp own
  refine ⟨said, candidate, gives, stands, own, fun unplaced => ?_, Page.authored_iff gives own⟩
  rw [unplaced, if_neg Bool.false_ne_true, Candidate.parse_eq_ok] at parsed
  exact (Candidate.describes_put.mp parsed).1

def locatorAt (value : String) (index : Nat) : Table Datum :=
  [("strategy", .text "id"), ("value", .text value), ("index", .int index)]

/-- An element with two locators, each of which gives its place under the second key. -/
def placedByIndex (first second : Nat) : Table Datum :=
  [("pages", .object [("login", .object [("elements", .object [("user", .list
    [.object (locatorAt "name" first), .object (locatorAt "mail" second)])])])])]

theorem placedByIndex_lists (first second : Nat) : Lists (placedByIndex first second) "login" "user"
    [.object (locatorAt "name" first), .object (locatorAt "mail" second)] :=
  ⟨_, _, _, _, _, rfl, rfl, rfl, rfl, rfl, rfl⟩

theorem ofFields_placedByIndex (first second : Nat) : ∃ catalog,
    ofFields (Files.empty "") ⟨"", []⟩ (placedByIndex first second) = .ok catalog ∧
      catalog.candidates "login" "user" =
        .ok (Page.sortCandidates [⟨0, .id, "name"⟩, ⟨1, .id, "mail"⟩]) :=
  ⟨_, rfl, rfl⟩

theorem second_key_of_own_place : ∃ catalog candidates made candidate,
    ofFields (Files.empty "") ⟨"", []⟩ (placedByIndex 0 1) = .ok catalog ∧
      Lists (placedByIndex 0 1) "login" "user"
        [.object (locatorAt "name" 0), .object (locatorAt "mail" 1)] ∧
      catalog.candidates "login" "user" = .ok candidates ∧ Page.SortsStably made candidates ∧
      made[1]? = some candidate ∧ Candidate.authored 1 (locatorAt "mail" 1) = .ok candidate := by
  obtain ⟨catalog, read, -⟩ := ofFields_placedByIndex 0 1
  obtain ⟨candidates, made, found, sorts, -, each⟩ :=
    candidates_as_authored_iff read (placedByIndex_lists 0 1)
  obtain ⟨said, candidate, gives, stands, -, -, alone⟩ := each 1 _ rfl
  cases gives
  refine ⟨catalog, candidates, made, candidate, read, placedByIndex_lists 0 1, found, sorts, stands,
    alone.mpr ?_⟩
  rintro - index indexed
  cases indexed
  rfl

/-- Alone the second locator comes before the first, in the list it does not. -/
theorem second_key_is_passed_over :
    (∃ catalog, ofFields (Files.empty "") ⟨"", []⟩ (placedByIndex 5 1) = .ok catalog ∧
      catalog.candidates "login" "user" = .ok [⟨0, .id, "name"⟩, ⟨1, .id, "mail"⟩]) ∧
    Candidate.parse (locatorAt "name" 5) = .ok ⟨5, .id, "name"⟩ ∧
    Candidate.parse (locatorAt "mail" 1) = .ok ⟨1, .id, "mail"⟩ := by
  refine ⟨?_, rfl, rfl⟩
  obtain ⟨catalog, read, found⟩ := ofFields_placedByIndex 5 1
  refine ⟨catalog, read, found.trans ?_⟩
  rw [Page.sortCandidates, List.mergeSort_of_pairwise (by decide)]

end Catalog

end Rehearsal
