import Registrar.Exclusion
import Registrar.Wire.Message

/-! The exclusion list as a file: a JSON array of records, or nothing but blanks. -/
namespace Registrar
set_option autoImplicit false

inductive FileReading where
  | content (bytes : Bytes)
  /-- The file could not be read; the reason is the system's. -/
  | failure (reason : String)
deriving DecidableEq, Repr

def FileReading.missing : FileReading :=
  .failure "No such file or directory (os error 2)"

/-- The blanks that make up an empty list. -/
def isAsciiBlank (b : UInt8) : Bool :=
  b = 0x20 || b = 0x09 || b = 0x0a || b = 0x0c || b = 0x0d

/-- The text of a file; `none` when it is no UTF-8. -/
def textOfBytes? (bytes : Bytes) : Option String :=
  String.fromUTF8? ⟨bytes.toArray⟩

def ExclusionRecord.readAll (bytes : Bytes) : Except Json.Fault (List ExclusionRecord) :=
  match textOfBytes? bytes with
  | none => .error .syntactic
  | some text => Json.asList ExclusionRecord.ofJson (Json.parse text)

def ExclusionTable.load (path : String) (reading : FileReading) (version : UInt64) :
    Except Error ExclusionTable :=
  match reading with
  | .failure reason => .error (.exclusionList path reason)
  | .content bytes =>
    if bytes.all isAsciiBlank then .ok (.empty version)
    else
      match ExclusionRecord.readAll bytes with
      | .ok records => .ok (.ofRecords records version)
      | .error _ => .error (.exclusionList path "malformed list")

end Registrar
