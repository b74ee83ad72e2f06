import Rehearsal.Catalog
import Rehearsal.Proofs.Script.Numbering

/-!
What an accepted catalog provides its tests with: every page that a test starts on or goes to, and
for every element that one of its records seeks the candidates, in the order of their ordinals.
-/

set_option autoImplicit false

namespace Rehearsal

/-! ## What was read -/

theorem Catalog.readAll_member {A : Type} {read : String -> Datum -> Except Failure A}
    {given : Table Datum} {all : Table A} (passed : readAll read given = .ok all) :
    ∀ entry ∈ all, ∃ value, read entry.1 value = .ok entry.2 := by
  induction given generalizing all with
  | nil =>
    cases passed
    simp
  | cons entry rest ih =>
    obtain ⟨first, taken, passed⟩ := (bind_eq_ok ..).mp passed
    obtain ⟨others, readOthers, passed⟩ := (bind_eq_ok ..).mp passed
    cases passed
    exact List.forall_mem_cons.mpr ⟨⟨entry.2, taken⟩, ih readOthers⟩

theorem Catalog.readAll_single {A : Type} {read : String -> Datum -> Except Failure A}
    {name : String} {value : Datum} {result : A} (taken : read name value = .ok result) :
    readAll read [(name, value)] = .ok [(name, result)] := by
  rw [readAll, taken]
  rfl

namespace Page

def Ranked (candidates : List Candidate) : Prop :=
  candidates ≠ [] ∧ candidates.Pairwise fun earlier later => earlier.ordinal ≤ later.ordinal

theorem readElements_eq_readAll (page : String) (given : Table Datum) :
    readElements page given = Catalog.readAll (readElement page) given := by
  induction given with
  | nil => rfl
  | cons entry rest ih => simp only [readElements, Catalog.readAll, ih]

theorem items_of_truthy {value : Datum} {items : List Datum} (truthy : value.truthy = true)
    (listed : value.items = .ok items) : items ≠ [] := by
  cases value with
  | list given =>
    cases listed
    simpa [Datum.truthy] using truthy
  | object fields =>
    cases listed
    simpa [Datum.truthy] using truthy
  | text given =>
    cases listed
    simpa [Datum.truthy, Datum.characters] using truthy
  | _ => cases listed

theorem readCandidates_length {position : Nat} {items : List Datum} {candidates : List Candidate}
    (read : readCandidates position items = .ok candidates) : candidates.length = items.length := by
  induction items generalizing position candidates with
  | nil =>
    cases read
    rfl
  | cons entry rest ih =>
    obtain ⟨first, -, read⟩ := (bind_eq_ok ..).mp read
    obtain ⟨others, readOthers, read⟩ := (bind_eq_ok ..).mp read
    cases read
    simp [ih readOthers]

theorem ranked_sortCandidates {candidates : List Candidate} (given : candidates ≠ []) :
    Ranked (sortCandidates candidates) := by
  constructor
  · intro none
    have kept : (sortCandidates candidates).length = candidates.length := List.length_mergeSort _
    rw [none] at kept
    exact given (List.length_eq_zero_iff.mp kept.symm)
  · have sorted : (sortCandidates candidates).Pairwise fun earlier later =>
        decide (earlier.ordinal ≤ later.ordinal) = true := by
      refine List.pairwise_mergeSort ?_ ?_ candidates
      · intro first second third
        simp only [decide_eq_true_eq]
        omega
      · intro first second
        simp only [Bool.or_eq_true, decide_eq_true_eq]
        omega
    simpa using sorted

theorem ranked_of_readElement {page name : String} {element : Datum} {candidates : List Candidate}
    (read : readElement page name element = .ok candidates) : Ranked candidates := by
  cases truthy : (locatorsOf element).truthy with
  | false =>
    simp only [readElement, truthy] at read
    cases read
  | true =>
    simp only [readElement, truthy] at read
    obtain ⟨items, listed, read⟩ := (bind_eq_ok ..).mp read
    obtain ⟨found, readFound, read⟩ := (bind_eq_ok ..).mp read
    cases read
    refine ranked_sortCandidates fun none => ?_
    have counted := readCandidates_length readFound
    have given := items_of_truthy truthy ((mapError_eq_ok ..).mp listed)
    exact given (List.length_eq_zero_iff.mp (by simpa [none] using counted.symm))

theorem ranked_of_ofDatum {name element : String} {value : Datum} {page : Page}
    {candidates : List Candidate} (read : ofDatum name value = .ok page)
    (found : page.candidates element = .ok candidates) : Ranked candidates := by
  obtain ⟨fields, -, read⟩ := (bind_eq_ok ..).mp read
  obtain ⟨given, -, read⟩ := (bind_eq_ok ..).mp read
  obtain ⟨elements, readAll, read⟩ := (bind_eq_ok ..).mp read
  obtain ⟨path, -, read⟩ := (bind_eq_ok ..).mp read
  cases read
  simp only [Page.candidates] at found
  split at found
  next among =>
    cases found
    rw [readElements_eq_readAll] at readAll
    obtain ⟨value, made⟩ := Catalog.readAll_member readAll _ (Table.get?_member among)
    exact ranked_of_readElement made
  · cases found

end Page

/-! ## What tests refer to -/

/-- A record looks up exactly these: the element that it names on the page that it names, if it
seeks one. -/
def Header.Seeks (header : Header) (needsElement : Bool) (page element : String) : Prop :=
  header.seeksElement needsElement = true ∧
    header.page.getD "" = page ∧ header.element.getD "" = element

def Test.Seeks (test : Test) (page element : String) : Prop :=
  (∃ action ∈ test.script.actions,
      action.header.Seeks action.operation.needsElement page element) ∨
    ∃ assertion ∈ test.script.assertions,
      assertion.header.Seeks assertion.aspect.needsElement page element

namespace Catalog

structure Provides (catalog : Catalog) (test : Test) : Prop where
  start : ∀ page, test.startPage = some page → page.isEmpty = false →
    ∃ path, catalog.pagePath page = .ok path
  targets : ∀ action ∈ test.script.actions, ∀ page, action.operation = .navigate page →
    ∃ path, catalog.pagePath page = .ok path
  elements : ∀ page element, test.Seeks page element →
    ∃ candidates, catalog.candidates page element = .ok candidates ∧ Page.Ranked candidates

variable {catalog : Catalog} {test : Test} {files : Files} {base : Path} {fields : Table Datum}

theorem pagePath_of_discard {name : String} (checked : discard (catalog.page name) = .ok ()) :
    ∃ path, catalog.pagePath name = .ok path := by
  obtain ⟨page, found⟩ := (discard_eq_ok _).mp checked
  exact ⟨page.path, by rw [pagePath, found]; rfl⟩

theorem candidates_of_checkTarget {header : Header} (checked : catalog.checkTarget header = .ok ())
    (targeted : header.hasTarget = true) :
    ∃ candidates,
      catalog.candidates (header.page.getD "") (header.element.getD "") = .ok candidates := by
  simp only [Header.hasTarget, Bool.and_eq_true] at targeted
  obtain ⟨placed, named⟩ := targeted
  cases onPage : header.page with
  | none => simp [Rehearsal.named, onPage] at placed
  | some page =>
    cases ofName : header.element with
    | none => simp [Rehearsal.named, ofName] at named
    | some element =>
      have filled : page.isEmpty = false := by simpa [Rehearsal.named, onPage] using placed
      have called : element.isEmpty = false := by simpa [Rehearsal.named, ofName] using named
      simp only [checkTarget, onPage, ofName, filled, called] at checked
      obtain ⟨found, known, checked⟩ := (bind_eq_ok ..).mp checked
      obtain ⟨candidates, listed⟩ := (discard_eq_ok _).mp checked
      exact ⟨candidates, (bind_eq_ok ..).mpr ⟨found, known, listed⟩⟩

theorem checkAction_ok {action : Action} (checked : catalog.checkAction action = .ok ()) :
    catalog.checkTarget action.header = .ok () ∧ ∀ page, action.operation = .navigate page →
      ∃ path, catalog.pagePath page = .ok path := by
  obtain ⟨⟨⟩, target, checked⟩ := (bind_eq_ok ..).mp checked
  refine ⟨target, fun page goes => ?_⟩
  rw [goes] at checked
  exact pagePath_of_discard checked

theorem checkTest_ok (checked : catalog.checkTest test = .ok ()) :
    (∀ page, test.startPage = some page → page.isEmpty = false →
      ∃ path, catalog.pagePath page = .ok path) ∧
    (∀ action ∈ test.script.actions, catalog.checkAction action = .ok ()) ∧
    ∀ assertion ∈ test.script.assertions, catalog.checkTarget assertion.header = .ok () := by
  have started : (∀ page, test.startPage = some page → page.isEmpty = false →
      discard (catalog.page page) = .ok ()) ∧
      (test.script.actions.forM catalog.checkAction >>= fun _ =>
        test.script.assertions.forM fun assertion => catalog.checkTarget assertion.header) =
          .ok () := by
    unfold checkTest at checked
    cases starts : test.startPage with
    | none =>
      simp only [starts] at checked
      exact ⟨nofun, checked⟩
    | some page =>
      cases empty : page.isEmpty <;> simp only [starts, empty] at checked
      · obtain ⟨⟨⟩, found, checked⟩ := (bind_eq_ok ..).mp checked
        exact ⟨fun other same _ => Option.some.inj same ▸ found, checked⟩
      · refine ⟨fun other same filled => ?_, checked⟩
        cases same
        cases filled.symm.trans empty
  obtain ⟨start, checked⟩ := started
  obtain ⟨⟨⟩, actions, assertions⟩ := (bind_eq_ok ..).mp checked
  exact ⟨fun page starts filled => pagePath_of_discard (start page starts filled),
    forM_member actions, forM_member assertions⟩

theorem ranked_of_ofFields (read : ofFields files base fields = .ok catalog)
    {page element : String} {candidates : List Candidate}
    (found : catalog.candidates page element = .ok candidates) : Page.Ranked candidates := by
  obtain ⟨given, -, read⟩ := (bind_eq_ok ..).mp read
  obtain ⟨pages, readPages, read⟩ := (bind_eq_ok ..).mp read
  obtain ⟨_, -, read⟩ := (bind_eq_ok ..).mp read
  obtain ⟨tests, -, read⟩ := (bind_eq_ok ..).mp read
  obtain ⟨_, -, read⟩ := (bind_eq_ok ..).mp read
  obtain ⟨params, -, read⟩ := (bind_eq_ok ..).mp read
  obtain ⟨⟨⟩, -, read⟩ := (bind_eq_ok ..).mp read
  cases read
  obtain ⟨held, known, listed⟩ := (bind_eq_ok ..).mp found
  simp only [Catalog.page] at known
  split at known
  next among =>
    cases known
    obtain ⟨value, made⟩ := readAll_member readPages _ (Table.get?_member among)
    exact Page.ranked_of_ofDatum made listed
  · cases known

theorem test_of_ofFields (read : ofFields files base fields = .ok catalog) {name : String}
    (known : catalog.test name = .ok test) :
    catalog.checkTest test = .ok () ∧ ∃ value, Script.ofDatum value = .ok test.script := by
  obtain ⟨_, -, read⟩ := (bind_eq_ok ..).mp read
  obtain ⟨pages, -, read⟩ := (bind_eq_ok ..).mp read
  obtain ⟨given, -, read⟩ := (bind_eq_ok ..).mp read
  obtain ⟨tests, readTests, read⟩ := (bind_eq_ok ..).mp read
  obtain ⟨_, -, read⟩ := (bind_eq_ok ..).mp read
  obtain ⟨params, -, read⟩ := (bind_eq_ok ..).mp read
  obtain ⟨⟨⟩, checked, read⟩ := (bind_eq_ok ..).mp read
  cases read
  simp only [Catalog.test] at known
  split at known
  next among =>
    cases known
    have member := Table.get?_member among
    refine ⟨forM_member checked _ member, ?_⟩
    obtain ⟨value, made⟩ := readAll_member readTests _ member
    obtain ⟨_, -, made⟩ := (bind_eq_ok ..).mp made
    obtain ⟨_, -, made⟩ := (bind_eq_ok ..).mp made
    obtain ⟨_, -, made⟩ := (bind_eq_ok ..).mp made
    obtain ⟨script, readScript, made⟩ := (bind_eq_ok ..).mp made
    obtain ⟨_, -, made⟩ := (bind_eq_ok ..).mp made
    dsimp only at made
    split at made
    · cases made
    · cases made
      exact ⟨_, readScript⟩
  · cases known

theorem provides_of_ofFields (read : ofFields files base fields = .ok catalog) {name : String}
    (known : catalog.test name = .ok test) : catalog.Provides test := by
  obtain ⟨checked, value, readScript⟩ := test_of_ofFields read known
  obtain ⟨start, actions, assertions⟩ := checkTest_ok checked
  obtain ⟨aimedActions, aimedAssertions⟩ := Script.isAimed_of_read readScript
  refine ⟨start, fun action member => (checkAction_ok (actions action member)).2, ?_⟩
  -- Accepted records name what they seek, and what they name was looked up.
  have listed : ∀ {header : Header} {needsElement : Bool} {page element : String},
      catalog.checkTarget header = .ok () → header.IsAimed needsElement →
      header.Seeks needsElement page element →
      ∃ candidates, catalog.candidates page element = .ok candidates ∧ Page.Ranked candidates := by
    rintro header needsElement _ _ checked aimed ⟨seeks, rfl, rfl⟩
    obtain ⟨candidates, found⟩ := candidates_of_checkTarget checked (aimed seeks)
    exact ⟨candidates, found, ranked_of_ofFields read found⟩
  rintro page element (⟨action, member, seeks⟩ | ⟨assertion, member, seeks⟩)
  · exact listed (checkAction_ok (actions action member)).1 (aimedActions action member) seeks
  · exact listed (assertions assertion member) (aimedAssertions assertion member) seeks

end Catalog

end Rehearsal
