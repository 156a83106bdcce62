import Registrar.CommandLine
import Registrar.Config.Validation
import Registrar.Logging
import Registrar.Startup

/-! The command line: reads arguments, environment, configuration and exclusion list, and tells what the
engine would start with. -/
namespace Registrar
set_option autoImplicit false

def usage : String :=
  "Validator registration and native delegation reconciliation service\n\n"
    ++ "Usage: regsync-service [OPTIONS]\n\nOptions:\n"
    ++ "  -c, --config <CONFIG>        Path to configuration file\n"
    ++ "  -d, --data-dir <DATA_DIR>    Override data directory\n"
    ++ "  -r, --rpc-url <RPC_URL>      Override execution node RPC URL\n"
    ++ "  -l, --log-level <LOG_LEVEL>  Log filters, comma separated [default: info]\n"
    ++ "      --log-dir <LOG_DIR>      Also write log files into this directory\n"
    ++ "  -h, --help                   Print help"

def CommandLine.Refusal.text : CommandLine.Refusal → String
  | .helpWanted => usage
  | .unknownArgument => "error: unexpected argument found"
  | .invalidValue => "error: a value is required"
  | .conflict => "error: an option cannot be used multiple times"
  | .tooManyValues => "error: unexpected value found"

def Environment.settingNames : List String :=
  configPathName :: dataDirName ::
    Config.usual.toJson.members.flatMap fun (group, v) =>
      v.members.map fun (field, _) => (namePrefix ++ group ++ "__" ++ field).map Char.toUpper

def readEnvironment : IO Environment :=
  Environment.settingNames.filterMapM fun name => do
    return (← IO.getEnv name).map fun value => (name, value)

def readText? (path : String) : IO (Option String) := do
  try
    return some (← IO.FS.readFile path)
  catch _ => return none

def readList (path : Option String) : IO FileReading := do
  match path with
  | none => return .missing
  | some path =>
    try
      return .content (← IO.FS.readBinFile path).toList
    catch e => return .failure (toString e)

/-- Reports an error and gives the exit code of a failed start. -/
def refuse (e : Error) : IO UInt32 := do
  IO.eprintln e.text
  return 1

/-- Loads what the engine starts with and reports it. -/
def startWith (args : CommandLine.Arguments) : IO UInt32 := do
  match Logging.Loggers.ofFilters args.logLevel with
  | .error e => refuse e
  | .ok _ =>
    let env := (← readEnvironment).overruledBy args
    let current := (← IO.currentDir).toString
    match Config.loadValid (← readText? (env.configPath (env.dataDir current))) env with
    | .error e => refuse e
    | .ok config =>
      let list ← readList config.exclusionPath
      match config.exclusionStore fun _ => list with
      | .error e => refuse e
      | .ok store =>
        IO.println config.loadedLine
        IO.println ("exclusions=" ++ toString store.current.size)
        return 0

end Registrar

def main (args : List String) : IO UInt32 := do
  match Registrar.CommandLine.parse args with
  | .ok args => Registrar.startWith args
  | .error .helpWanted =>
    IO.println Registrar.CommandLine.Refusal.helpWanted.text
    return 0
  | .error refusal =>
    IO.eprintln refusal.text
    return 2
