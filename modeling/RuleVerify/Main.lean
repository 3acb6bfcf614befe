import RuleVerify.Command.Run
import Std.Time.DateTime.Timestamp

open RuleVerify

/-- The environment variables that a run looks at. -/
def settingNames : List String :=
  [Config.typesName, Config.categoryName, Config.rulesName, Config.librariesName,
   Config.confirmName, Command.filterName]

/-- Why a file cannot be read. -/
def causeText : IO.Error → String
  | .noFileOrDirectory .. => "No such file or directory (os error 2)"
  | .inappropriateType .. => "Is a directory (os error 21)"
  | .permissionDenied .. => "Permission denied (os error 13)"
  | e => toString e

def readFile (path : String) : IO (Except String String) := do
  try
    return .ok (← IO.FS.readFile path)
  catch e => return .error (causeText e)

/-- A random identifier of the current time. -/
def newStamp : IO Stamp := do
  let bytes ← IO.getRandomBytes 16
  let now := (← Std.Time.Timestamp.now).val
  let time : Timestamp := ⟨now.second.val, now.nano.val.toNat⟩
  return ⟨(Uuid.ofRandom (bytes.toList.map UInt8.toNat)).render, time.render⟩

/-- The most verifications that a run has. -/
def stampCount : Nat := 7

def main (arguments : List String) : IO UInt32 := do
  let settings ← settingNames.mapM fun name => return (name, ← IO.getEnv name)
  let paths := ((Command.Line.ofArguments? arguments).map Command.Line.paths).getD []
  let files ← paths.mapM fun path => return (path, ← readFile path)
  let stamps ← (List.range stampCount).mapM fun _ => newStamp
  let surroundings : Command.Surroundings :=
    ⟨fun name => (settings.lookup name).join,
      fun path => (files.lookup path).getD (.error "No such file or directory (os error 2)"),
      fun n => stamps[n]?.getD ⟨"", ""⟩⟩
  let output := Command.run surroundings arguments
  IO.print output.out
  IO.eprint output.err
  return output.exitCode.toUInt32
