import Registrar.Bytes

/-! The recursive length encoding of the execution chain: strings of bytes and lists of items, each
preceded by its length. -/
namespace Registrar.Rlp
set_option autoImplicit false

inductive Item where
  | string (b : Bytes)
  | list (items : List Item)

/-! ## Encoding -/

/-- The mark of a string (`base` 128) or a list (`base` 192) of the given length. -/
def lengthMark (base : Nat) (length : Nat) : Bytes :=
  if length < 56 then [UInt8.ofNat (base + length)]
  else
    let digits := minimalBytes length
    UInt8.ofNat (base + 55 + digits.length) :: digits

/-- A single byte below 128 stands for itself. -/
def encodeString (b : Bytes) : Bytes :=
  match b with
  | [x] => if x < 128 then [x] else lengthMark 128 1 ++ [x]
  | b => lengthMark 128 b.length ++ b

mutual

def Item.encode : Item → Bytes
  | .string b => encodeString b
  | .list items =>
    let body := encodeItems items
    lengthMark 192 body.length ++ body

def encodeItems : List Item → Bytes
  | [] => []
  | i :: rest => i.encode ++ encodeItems rest

end

/-- A number is the string of its bytes without leading zeros. -/
def Item.ofNat (n : Nat) : Item :=
  .string (minimalBytes n)

/-! ## Decoding -/

/-- The length that a mark gives, and the bytes behind it. -/
def readLength? (base : Nat) (mark : Nat) (rest : Bytes) : Option (Nat × Bytes) :=
  if mark < base + 56 then some (mark - base, rest)
  else
    let digits := rest.take (mark - base - 55)
    if digits.length = mark - base - 55 then some (natOfBytes digits, rest.drop (mark - base - 55))
    else none

mutual

/-- Reads one item; `fuel` bounds the items read in all. -/
def readItem? : Nat → Bytes → Option (Item × Bytes)
  | 0, _ | _, [] => none
  | fuel + 1, b :: rest =>
    if b < 128 then some (.string [b], rest)
    else if b < 192 then
      match readLength? 128 b.toNat rest with
      | none => none
      | some (length, rest) =>
        if rest.length < length then none
        else some (.string (rest.take length), rest.drop length)
    else
      match readLength? 192 b.toNat rest with
      | none => none
      | some (length, rest) =>
        if rest.length < length then none
        else (readItems? fuel (rest.take length)).map fun items =>
          (.list items, rest.drop length)

def readItems? : Nat → Bytes → Option (List Item)
  | _, [] => some []
  | 0, _ => none
  | fuel + 1, b :: rest =>
    match readItem? fuel (b :: rest) with
    | none => none
    | some (item, rest) => (readItems? fuel rest).map (item :: ·)

end

/-- The item that the bytes encode, if they encode one and nothing besides. -/
def decode? (bytes : Bytes) : Option Item :=
  match readItem? (2 * bytes.length + 2) bytes with
  | some (item, []) => some item
  | _ => none

end Registrar.Rlp
