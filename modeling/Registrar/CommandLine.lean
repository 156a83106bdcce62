import Registrar.Config.Environment

/-! The command line: its options, the settings that they make, and the places of data and
configuration that follow from them. -/
namespace Registrar
set_option autoImplicit false

/-! ## Options -/

namespace CommandLine

inductive Flag where
  | config
  | dataDir
  | rpcUrl
  | logLevel
  | logDir
deriving DecidableEq, Repr

namespace Flag

def all : List Flag :=
  [config, dataDir, rpcUrl, logLevel, logDir]

def long : Flag → String
  | config => "config"
  | dataDir => "data-dir"
  | rpcUrl => "rpc-url"
  | logLevel => "log-level"
  | logDir => "log-dir"

def short? : Flag → Option Char
  | config => some 'c'
  | dataDir => some 'd'
  | rpcUrl => some 'r'
  | logLevel => some 'l'
  | logDir => none

/-- Paths must not be empty. -/
def isPath : Flag → Bool
  | config | dataDir | logDir => true
  | rpcUrl | logLevel => false

def ofLong? (name : String) : Option Flag :=
  all.find? (·.long = name)

def ofShort? (c : Char) : Option Flag :=
  all.find? (·.short? = some c)

end Flag

inductive Refusal where
  | helpWanted
  | unknownArgument
  /-- A value is missing or empty. -/
  | invalidValue
  /-- An option is given twice. -/
  | conflict
  /-- A value is given where none belongs. -/
  | tooManyValues
deriving DecidableEq, Repr

/-! ## Reading arguments one by one -/

structure Progress where
  given : List (Flag × String)
  /-- The last option, as long as it may still wait for its value; it counts only when the next one comes. -/
  pending : Option (Flag × Option String)
  /-- Two dashes alone were met. -/
  ended : Bool

namespace Progress

def start : Progress :=
  ⟨[], none, false⟩

def set (p : Progress) (f : Flag) (value : String) : Except Refusal Progress :=
  if p.given.any (·.1 = f) then .error .conflict
  else if f.isPath && value.isEmpty then .error .invalidValue
  else .ok { p with given := p.given ++ [(f, value)] }

def settle (p : Progress) : Except Refusal Progress :=
  match p.pending with
  | none => .ok p
  | some (_, none) => .error .invalidValue
  | some (f, some value) => { p with pending := none }.set f value

/-- Meets an option, with its value attached or still to come. -/
def option (p : Progress) (f : Flag) (attached : Option String) : Except Refusal Progress :=
  match p.settle with
  | .error e => .error e
  | .ok p =>
    match attached with
    | some value => p.set f value
    | none => .ok { p with pending := some (f, none) }

/-- A fault of what came before is reported before help is given. -/
def help (p : Progress) : Except Refusal Progress :=
  match p.settle with
  | .error e => .error e
  | .ok _ => .error .helpWanted

/-- An argument behind two dashes: a name and perhaps a value behind an equals sign. -/
def long (p : Progress) (cs : List Char) : Except Refusal Progress :=
  let (name, attached) := match Text.cutAt? ['='] cs with
    | some (name, value) => (String.ofList name, some (String.ofList value))
    | none => (String.ofList cs, none)
  if name = "help" then
    if attached.isSome then .error .tooManyValues else p.help
  else
    match Flag.ofLong? name with
    | some f => p.option f attached
    | none => .error .unknownArgument

/-- An argument behind one dash: a letter and perhaps a value, with or without an equals sign. -/
def short (p : Progress) (c : Char) (rest : List Char) : Except Refusal Progress :=
  if c = 'h' then p.help
  else
    match Flag.ofShort? c with
    | none => .error .unknownArgument
    | some f =>
      match rest with
      | [] => p.option f none
      | '=' :: value => p.option f (some (String.ofList value))
      | value => p.option f (some (String.ofList value))

/-- An argument without dashes is the value that an option waits for. -/
def plain (p : Progress) (value : String) : Except Refusal Progress :=
  match p.pending with
  | some (f, none) => .ok { p with pending := some (f, some value) }
  | _ => .error .unknownArgument

def take (p : Progress) (arg : String) : Except Refusal Progress :=
  if p.ended then .error .unknownArgument
  else
    match arg.toList with
    | ['-', '-'] => .ok { p with ended := true }
    | '-' :: '-' :: cs => p.long cs
    | '-' :: c :: rest => p.short c rest
    | _ => p.plain arg

end Progress

/-! ## The whole command line -/

structure Arguments where
  config : Option String
  dataDir : Option String
  rpcUrl : Option String
  logLevel : String
  logDir : Option String
deriving DecidableEq, Repr

def defaultLogLevel : String := "info"

def Arguments.ofGiven (given : List (Flag × String)) : Arguments :=
  let value := fun (f : Flag) => (given.find? (·.1 = f)).map (·.2)
  { config := value .config
    dataDir := value .dataDir
    rpcUrl := value .rpcUrl
    logLevel := (value .logLevel).getD defaultLogLevel
    logDir := value .logDir }

def parse (args : List String) : Except Refusal Arguments := do
  let p ← args.foldlM Progress.take .start
  let p ← p.settle
  return .ofGiven p.given

end CommandLine

/-! ## Settings in the environment -/

namespace Environment

def rpcUrlName : String := "REGSYNC_CHAIN__RPC_URL"

def configPathName : String := "REGSYNC_CONFIG_PATH"

def dataDirName : String := "REGSYNC_DATA_DIR"

def set (env : Environment) (name value : String) : Environment :=
  env.filter (·.1 ≠ name) ++ [(name, value)]

def setGiven (env : Environment) (name : String) : Option String → Environment
  | none => env
  | some value => env.set name value

/-- What the command line says wins over the environment. -/
def overruledBy (env : Environment) (args : CommandLine.Arguments) : Environment :=
  ((env.setGiven configPathName args.config).setGiven dataDirName args.dataDir).setGiven rpcUrlName
    args.rpcUrl

/-! ## Places -/

def joinPath (directory name : String) : String :=
  if directory.endsWith "/" then directory ++ name else directory ++ "/" ++ name

/-- The directory of the program's data; by default one below the current directory. -/
def dataDir (env : Environment) (current : String) : String :=
  (env.filled? dataDirName).getD (joinPath current ".regsync")

/-- The file of the configuration; by default one in the data directory. -/
def configPath (env : Environment) (dataDir : String) : String :=
  (env.filled? configPathName).getD (joinPath dataDir "regsync.toml")

end Environment

end Registrar
