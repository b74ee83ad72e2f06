import Rehearsal.Proofs.Scenario.Grounding
import Rehearsal.Proofs.Scenario.Lookups
import Rehearsal.Proofs.Scenario.RowReplay

/-!
References reach the run. An accepted catalog was checked for all that its tests will look up, so a
run of a test finds every page and every element that it asks for, and never fails for want of one.
-/

set_option autoImplicit false

namespace Rehearsal

namespace Scenario

variable {W T : Type} [Scale T]

/-- What a scenario can rely on when it runs a test of its catalog. -/
structure Secures (scenario : Scenario W T) (name : String) (test : Test) : Prop where
  ranked : ∀ page element, test.Seeks page element →
    ∃ candidates, scenario.catalog.candidates page element = .ok candidates ∧
      Page.Ranked candidates
  -- No other element is looked up: what another catalog says of them makes no difference.
  executes : ∀ other, scenario.catalog.AgreesFor other test → other.test name = .ok test →
    ∀ asked, { scenario with catalog := other }.executeTest name asked =
      scenario.executeTest name asked
  asserts : ∀ other, scenario.catalog.AgreesFor other test → other.test name = .ok test →
    ∀ perRow, { scenario with catalog := other }.assertTest name perRow =
      scenario.assertTest name perRow
  -- Each attempt by itself, from whatever scene it starts.
  actions : ∀ action ∈ test.script.actions, ∀ row, (scenario.takeAction action row).Raises
    (Failure.Excusable (action.Excuses scenario.hasHttp))
  assertions : ∀ assertion ∈ test.script.assertions, ∀ row,
    (scenario.takeAssertion assertion row).Raises (Failure.Excusable Failure.Unexcused)
  -- What lies between the attempts depends on the page to return to, which stays one of the catalog.
  opening : ∀ world files, scenario.Placed (Scene.opening world files)
  reopened : scenario.reopen.Ensures scenario.Placed
    ⟨fun _ => True, Failure.Excusable Failure.Unexcused⟩
  executed : ∀ asked, (scenario.executeTest name asked).Ensures scenario.Placed
    ⟨fun _ => True, Failure.Excusable (test.script.Excuses scenario.hasHttp)⟩
  asserted : ∀ perRow, (scenario.assertTest name perRow).Ensures scenario.Placed
    ⟨fun _ => True, Failure.Excusable Failure.Unexcused⟩

/-- Whatever the world does, a test of an accepted catalog only looks up what is there. -/
theorem secures_of_ofFields {scenario : Scenario W T} {files : Files} {base : Path}
    {fields : Table Datum} (read : Catalog.ofFields files base fields = .ok scenario.catalog)
    {name : String} {test : Test} (known : scenario.catalog.test name = .ok test)
    (listens : scenario.onRestart = [Scene.dropHandles]) : scenario.Secures name test := by
  have provides := Catalog.provides_of_ofFields read known
  obtain ⟨-, value, readScript⟩ := Catalog.test_of_ofFields read known
  have onward := (Script.wellNumbered_of_read readScript).leadsOn
  constructor
  · exact provides.elements
  · intro other agrees alike
    exact (agrees.same_run known alike).1
  · intro other agrees alike
    exact (agrees.same_run known alike).2
  · intro action member row scene failure last ran
    exact ((takeAction_stays provides member row).of_run ran).2 failure rfl
  · intro assertion member row scene failure last ran
    exact ((takeAssertion_stays provides member row).of_run ran).2 failure rfl
  · intro world files page here
    cases here
  · exact reopen_ensures listens _
  · exact executeTest_ensures listens provides onward known
  · exact assertTest_ensures listens provides known

/-! ## A catalog of one page and one check -/

def userDatum : Datum := .list [.object [("strategy", .text "id"), ("value", .text "user")]]

def checkFields : Table Datum :=
  [("pages", .object [("login", .object
      [("path", .text "/login"), ("elements", .object [("user", userDatum)])])]),
   ("tests", .object [("entry", .object [("actions", .list [.object (checkRecord 2)])])])]

def checkTest : Test :=
  { name := "entry", script := checkScript 2, dataFile := none, rows := none, startPage := none
    resetsSession := false }

theorem read_userDatum : Page.readElement "login" "user" userDatum =
    .ok [{ ordinal := 0, strategy := .id, value := "user" }] := by
  let candidate : Candidate := { ordinal := 0, strategy := .id, value := "user" }
  have sorted : Page.sortCandidates [candidate] = [candidate] := List.mergeSort_singleton _
  change Except.ok (Page.sortCandidates [candidate]) = _
  rw [sorted]

theorem read_checkFields : Catalog.ofFields (Files.empty "/") (Path.ofText ".") checkFields =
    .ok ((onePage World.willing).offering checkTest).catalog := by
  have script : Script.ofDatum (.object [("test_id", .text "entry"),
      ("actions", .list [.object (checkRecord 2)]), ("assertions", .list [])]) =
        .ok (checkScript 2) := by
    have parts : Script.readParts [("test_id", .text "entry"),
        ("actions", .list [.object (checkRecord 2)]), ("assertions", .list [])] =
          .ok ([checkAction 2], []) := Script.readParts_single rfl rfl rfl rfl
    rw [Script.ofDatum, parts]
    rfl
  have test : Test.ofDatum (Files.empty "/") (Path.ofText ".") "entry"
      (.object [("actions", .list [.object (checkRecord 2)])]) = .ok checkTest := by
    change (Script.ofDatum _ >>= _) = _
    rw [script]
    rfl
  have page : Page.ofDatum "login" (.object [("path", .text "/login"),
      ("elements", .object [("user", userDatum)])]) = .ok
        { name := "login", path := "/login"
          elements := [("user", [{ ordinal := 0, strategy := .id, value := "user" }])] } := by
    have elements := Catalog.readAll_single read_userDatum
    rw [← Page.readElements_eq_readAll] at elements
    exact (bind_eq_ok ..).mpr ⟨_, rfl, (bind_eq_ok ..).mpr ⟨_, rfl,
      (bind_eq_ok ..).mpr ⟨_, elements, rfl⟩⟩⟩
  exact (bind_eq_ok ..).mpr ⟨_, rfl, (bind_eq_ok ..).mpr ⟨_, Catalog.readAll_single page,
    (bind_eq_ok ..).mpr ⟨_, rfl, (bind_eq_ok ..).mpr ⟨_, Catalog.readAll_single test, rfl⟩⟩⟩⟩

/-- Where the whole catalog is about one element, a run of its test fails for want of nothing. -/
theorem secures_checkTest :
    let scenario := (onePage World.willing).offering checkTest
    Catalog.ofFields (Files.empty "/") (Path.ofText ".") checkFields = .ok scenario.catalog ∧
      scenario.catalog.test "entry" = .ok checkTest ∧
      scenario.onRestart = [Scene.dropHandles] ∧ scenario.Secures "entry" checkTest ∧
      checkTest.Seeks "login" "user" := by
  intro scenario
  refine ⟨read_checkFields, rfl, rfl, secures_of_ofFields read_checkFields rfl rfl, ?_⟩
  exact .inl ⟨checkAction 2, List.mem_singleton_self _, rfl, rfl, rfl⟩

end Scenario

end Rehearsal
