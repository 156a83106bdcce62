import Registrar.Json.Basic
import Registrar.Text.Hex

/-! The compact text of a JSON value. -/
namespace Registrar.Json
set_option autoImplicit false

def escape (c : Char) : List Char :=
  if c = '"' then ['\\', '"']
  else if c = '\\' then ['\\', '\\']
  else if c = '\x08' then ['\\', 'b']
  else if c = '\x0c' then ['\\', 'f']
  else if c = '\n' then ['\\', 'n']
  else if c = '\r' then ['\\', 'r']
  else if c = '\t' then ['\\', 't']
  else if c.toNat < 0x20 then
    ['\\', 'u', '0', '0', Text.hexChar (c.toNat / 16), Text.hexChar (c.toNat % 16)]
  else [c]

def quoted (s : String) : List Char :=
  '"' :: s.toList.flatMap escape ++ ['"']

def commaSeparated : List (List Char) → List Char
  | [] => []
  | [p] => p
  | p :: rest => p ++ ',' :: commaSeparated rest

mutual

def render : Json → List Char
  | .null => "null".toList
  | .bool b => (if b then "true" else "false").toList
  | .number digits => digits.toList
  | .string s => quoted s
  | .array items => '[' :: commaSeparated (renderItems items) ++ [']']
  | .object members => '\x7b' :: commaSeparated (renderMembers members) ++ ['\x7d']
  | .unpaired _ | .buried _ | .misnamed _ | .gap | .broken => []

def renderItems : List Json → List (List Char)
  | [] => []
  | v :: vs => v.render :: renderItems vs

def renderMembers : List (String × Json) → List (List Char)
  | [] => []
  | (name, v) :: vs => (quoted name ++ ':' :: v.render) :: renderMembers vs

end

def text (v : Json) : String :=
  String.ofList v.render

end Registrar.Json
