import Rehearsal.CommandLine.Run
import Rehearsal.Simulation.Report

/-!
The command line: a test is rehearsed on the world that the file `world.json` describes, with the
files of the working folder. What the run writes is written there, and every call is printed.
-/

set_option autoImplicit false

namespace Rehearsal.CommandLine

def worldFile : String := "world.json"

def mostRounds : Nat := 10000000

/-- The names in the environment that a setting may be taken from. -/
def knownVariables : List String :=
  Settings.overlayVariable ::
    Settings.defaults.keys.map fun name => Settings.variableMark ++ Text.uppercase name

def readVariables : List String -> IO (Table String)
  | [] => return []
  | name :: rest => do
    let others ← readVariables rest
    match ← IO.getEnv name with
    | some value => return (name, value) :: others
    | none => return others

partial def gather (under : String) (tree : Files) (entry : IO.FS.DirEntry) : IO Files := do
  let name := under ++ entry.fileName
  if ← entry.path.isDir then
    (← entry.path.readDir).foldlM (gather (name ++ "/")) tree
  else return tree.place name (← IO.FS.readBinFile entry.path)

def readWorld (files : Files) : Except Fault (Simulation Float) := do
  let path := Path.ofText worldFile
  if files.isFile path then
    let text ← Text.decode (← files.read path)
    return Simulation.ofFields (← (← Json.read text).toFields)
  else return Simulation.ofFields []

def writeFile (before : Files) (entry : String × ByteArray) : IO Unit := do
  if before.files.get? entry.1 != some entry.2 then
    IO.FS.createDirAll (Path.ofText entry.1).parent.text
    IO.FS.writeBinFile entry.1 entry.2

def printCall (entry : Float × Call Float) : IO Unit :=
  IO.println (Json.write (Simulation.entry Datum.real entry.1 entry.2))

/-- Runs a plan on a world, and gives the exit code. -/
def runOn (plan : Plan) (files : Files) (world : Simulation Float) : IO UInt32 := do
  let scenario := plan.scenario Simulation.world "run" mostRounds
  let (outcome, scene) := plan.run scenario (Scene.opening world files)
  scene.world.takeRecords.1.1.forM printCall
  scene.files.files.forM (writeFile files)
  match outcome with
  | .ok passed => return if passed then 0 else 1
  | .failed failure =>
    IO.eprintln s!"{failure.name}: {failure.message}"
    return 1
  | .stalled =>
    IO.eprintln "the run does not come to an end"
    return 1

def refuse (message : String) (code : UInt32) : IO UInt32 := do
  IO.eprintln message
  return code

def runWords (words : List String) : IO UInt32 := do
  let folder ← IO.currentDir
  let files ← (← folder.readDir).foldlM (gather "") (Files.empty folder.toString)
  let environment ← readVariables knownVariables
  match readPlan files environment words, readWorld files with
  | .ok (.error .help), _ =>
    IO.println "--catalog PATH and --test NAME are required"
    return 0
  | .ok (.error (.wrong message)), _ => refuse s!"error: {message}" 2
  | .error failure, _ => refuse s!"{failure.name}: {failure.message}" 1
  | .ok (.ok _), .error fault => refuse s!"{worldFile}: {fault.message}" 1
  | .ok (.ok plan), .ok world => runOn plan files world

end Rehearsal.CommandLine

def main (words : List String) : IO UInt32 := Rehearsal.CommandLine.runWords words
