import Registrar.Abi.Basic
import Registrar.Crypto.Keccak

/-! Functions of a contract: a call is the selector of the function and then its arguments. -/
namespace Registrar.Abi
set_option autoImplicit false

structure Function where
  signature : String
  arguments : List Kind

namespace Function

/-- The first four bytes of the hash of the signature. -/
def selector (f : Function) : Bytes :=
  (Crypto.keccak256 (Text.utf8 f.signature.toList)).bytes.take 4

def call (f : Function) (arguments : List Value) : Bytes :=
  f.selector ++ encodeAll arguments

/-- The arguments of a call of this function; `none` for any other call data. -/
def arguments? (f : Function) (data : Bytes) : Option (List Value) :=
  if data.take 4 = f.selector then decodeAll f.arguments (data.drop 4) else none

end Function

end Registrar.Abi
