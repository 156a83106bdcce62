import Registrar.Abi.Call
import Registrar.Address

/-! The aggregating contract: many calls in one, each of which may fail on its own. -/
namespace Registrar.Contract.Multicall
set_option autoImplicit false

open Abi

structure Call where
  target : Address
  allowFailure : Bool
  data : Bytes
deriving DecidableEq

structure Answer where
  success : Bool
  data : Bytes
deriving DecidableEq

def aggregate : Function :=
  ⟨"aggregate3((address,bool,bytes)[])", [.list (.record [.word, .word, .bytes])]⟩

/-! ## Calls -/

def Call.toValue (c : Call) : Value :=
  .record [.ofAddress c.target, .ofBool c.allowFailure, .bytes c.data]

def Call.ofValue? : Value → Option Call
  | .record [target, allowFailure, data] => do
    some ⟨← target.toAddress?, ← allowFailure.toBool?, ← data.toBytes?⟩
  | _ => none

def encode (calls : List Call) : Bytes :=
  aggregate.call [.list (calls.map Call.toValue)]

def decode? (data : Bytes) : Option (List Call) :=
  match aggregate.arguments? data with
  | some [.list items] => items.mapM Call.ofValue?
  | _ => none

/-! ## Answers -/

def Answer.toValue (a : Answer) : Value :=
  .record [.ofBool a.success, .bytes a.data]

def Answer.ofValue? : Value → Option Answer
  | .record [success, data] => do some ⟨← success.toBool?, ← data.toBytes?⟩
  | _ => none

def encodeAnswers (answers : List Answer) : Bytes :=
  encodeAll [.list (answers.map Answer.toValue)]

def decodeAnswers? (data : Bytes) : Option (List Answer) :=
  match decodeAll [.list (.record [.word, .bytes])] data with
  | some [.list items] => items.mapM Answer.ofValue?
  | _ => none

end Registrar.Contract.Multicall
