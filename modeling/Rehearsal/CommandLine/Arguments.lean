import Rehearsal.CommandLine.Options

/-!
The arguments of a run: which test of which catalog, and what to change in the settings.
-/

set_option autoImplicit false

namespace Rehearsal.CommandLine

structure Arguments where
  catalog : Given
  test : Given
  startPage : Option Given
  config : Option Given
  overlay : Option Given
  run : Option Given
  onRowFailure : Option Given
  verbose : Bool
  deriving DecidableEq

namespace Arguments

def valued (name : String) (required : Bool) (choices : List String) : OptionSpec :=
  { names := [name], kind := .value choices, required }

def specs : List OptionSpec :=
  [{ names := ["-h", "--help"], kind := .help, required := false },
   valued "--catalog" true [], valued "--test" true [], valued "--start-page" false [],
   valued "--config" false [], valued "--env" false [], valued "--run-id" false [],
   valued "--on-row-failure" false ["abort", "continue"],
   { names := ["--verbose"], kind := .flag, required := false }]

def ofTaken (taken : Taken) : Arguments :=
  let value := fun name => taken.values.get? name
  { catalog := (value "--catalog").getD .dashes, test := (value "--test").getD .dashes
    startPage := value "--start-page", config := value "--config", overlay := value "--env"
    run := value "--run-id", onRowFailure := value "--on-row-failure"
    verbose := taken.flags.contains "--verbose" }

/-- A word that was given for an option, unless it is empty. -/
def filled? (given : Option Given) : Option String :=
  (given.bind Given.word?).filter fun text => !text.isEmpty

def read (words : List String) : Except Usage Arguments := (readOptions specs words).map ofTaken

end Arguments

end Rehearsal.CommandLine
