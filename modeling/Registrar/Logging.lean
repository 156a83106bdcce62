import Registrar.Error
import Registrar.Text.Blank

/-! Logging: filters in one text, the level at which each target is heard, and the files that lines go
to. A target is heard at the level of the longest configured path that leads to it. -/
namespace Registrar.Logging
set_option autoImplicit false

/-! ## Levels -/

inductive Level where
  | off
  | error
  | warn
  | info
  | debug
  | trace
deriving DecidableEq, Repr

namespace Level

def all : List Level :=
  [off, error, warn, info, debug, trace]

def name : Level → String
  | off => "OFF"
  | error => "ERROR"
  | warn => "WARN"
  | info => "INFO"
  | debug => "DEBUG"
  | trace => "TRACE"

/-- Higher ranks let more through. -/
def rank : Level → Nat
  | off => 0
  | error => 1
  | warn => 2
  | info => 3
  | debug => 4
  | trace => 5

def max (a b : Level) : Level :=
  if a.rank < b.rank then b else a

def passes (line threshold : Level) : Bool :=
  line.rank ≤ threshold.rank

/-- The level of a name, letters of either case. -/
def ofName? (cs : List Char) : Option Level :=
  all.find? fun l => cs.map Char.toUpper = l.name.toList

end Level

/-! ## Targets as paths -/

/-- The parts of a path between double colons. -/
def components : List Char → List (List Char)
  | [] => [[]]
  | ':' :: ':' :: r => [] :: components r
  | c :: r =>
    match components r with
    | [] => [[c]]
    | p :: ps => (c :: p) :: ps

/-- One path leads to another when its parts are the first of the other's. -/
def leadsTo (path target : String) : Bool :=
  (components path.toList).isPrefixOf (components target.toList)

/-- Behind `run` colons, colons stand in pairs only and none at the end. -/
def colonsPaired : Nat → List Char → Bool
  | run, [] => run = 0
  | run, c :: r =>
    if c = ':' then run < 2 && colonsPaired (run + 1) r
    else (run = 0 || run = 2) && colonsPaired 0 r

def isPath (s : String) : Bool :=
  !s.isEmpty && colonsPaired 0 s.toList

/-- The paths under which the program's own parts log. -/
def ownPaths : List String :=
  ["regsync_core", "regsync_service"]

def requestTarget : String := "http"

/-! ## Filters -/

/-- A part of the filter text: a level alone, a path with a level, or something to be ignored. -/
inductive Part where
  | bare (l : Level)
  | root (l : Level)
  | path (name : String) (l : Level)
deriving DecidableEq, Repr

def Part.ofText? (cs : List Char) : Option Part :=
  let cs := Text.trim cs
  match Text.cutAt? ['='] cs with
  | none => (Level.ofName? cs).map .bare
  | some (name, level) =>
    let name := String.ofList (Text.trim name)
    match Level.ofName? (Text.trim level) with
    | none => none
    | some l =>
      if name = "root" then some (.root l)
      else if name.isEmpty then none
      else some (.path name l)

/-- The parts between commas that say something. -/
def parts (filters : String) : List Part :=
  (Text.splitAt ',' filters.toList).filterMap Part.ofText?

/-- The level of the program's own parts: the first level that stands alone. -/
def appLevel (filters : String) : Level :=
  ((parts filters).findSome? fun
    | .bare l => some l
    | _ => none).getD .info

/-- The level of everything else: the first one given to the root. -/
def rootLevel (filters : String) : Level :=
  ((parts filters).findSome? fun
    | .root l => some l
    | _ => none).getD .off

def pathLevels (filters : String) : List (String × Level) :=
  (parts filters).filterMap fun
    | .path name l => some (name, l)
    | _ => none

/-! ## Loggers -/

structure Loggers where
  root : Level
  /-- Paths with levels of their own. -/
  named : List (String × Level)
deriving DecidableEq, Repr

namespace Loggers

/-- The loggers that a filter text asks for: the program's own parts unless they are named, and what is
named. -/
def asked (filters : String) : Loggers :=
  let named := pathLevels filters
  let own := ownPaths.filter fun p => !named.any (·.1 = p)
  ⟨rootLevel filters, own.map (·, appLevel filters) ++ named⟩

def distinct : List String → Bool
  | [] => true
  | name :: rest => !rest.contains name && distinct rest

/-- No path is named twice and each is well formed. -/
def isValid (l : Loggers) : Bool :=
  let names := l.named.map (·.1)
  names.all isPath && distinct names

def ofFilters (filters : String) : Except Error Loggers :=
  let l := asked filters
  if l.isValid then .ok l
  else .error (.config "invalid logger configuration: names must be distinct and well formed")

def longer (best : Option (String × Level)) (n : String × Level) : Option (String × Level) :=
  match best with
  | none => some n
  | some b =>
    if (components b.1.toList).length < (components n.1.toList).length then some n else some b

def level (l : Loggers) (target : String) : Level :=
  match (l.named.filter fun n => leadsTo n.1 target).foldl longer none with
  | some n => n.2
  | none => l.root

def maxLevel (l : Loggers) : Level :=
  l.named.foldl (fun m n => m.max n.2) l.root

end Loggers

/-! ## Files -/

structure Line where
  target : String
  level : Level
  message : String
deriving DecidableEq, Repr

def Line.text (l : Line) : String :=
  "[" ++ l.level.name ++ "".pushn ' ' (5 - l.level.name.length)
    ++ "] " ++ l.message

def Loggers.heard (l : Loggers) (lines : List Line) : List Line :=
  lines.filter fun line => line.level.passes (l.level line.target)

/-- The file that takes everything. -/
def logFileName : String := "regsync.log"

/-- The file that takes warnings and errors. -/
def errorFileName : String := "regsync_err.log"

/-- The files in the log directory, if there is one, with their lines. -/
def files (l : Loggers) (directory : Option String) (lines : List Line) : List (String × List Line) :=
  match Text.filled? directory with
  | none => []
  | some _ =>
    let heard := l.heard lines
    [(logFileName, heard), (errorFileName, heard.filter (·.level.passes .warn))]

end Registrar.Logging
