import Registrar.Bytes

/-! Call data of contracts: values, their kinds, and the encoding in words of 32 bytes in which a
value of variable size is replaced by its offset and follows behind. -/
namespace Registrar.Abi
set_option autoImplicit false

/-! ## Values and kinds -/

inductive Value where
  | word (w : Word)
  | bytes (b : Bytes)
  | list (items : List Value)
  | record (fields : List Value)

inductive Kind where
  | word
  | bytes
  | list (item : Kind)
  | record (fields : List Kind)

mutual

/-- The encoding of the value has a size of its own, so that the value is referred to by offset. -/
def Value.isDynamic : Value → Bool
  | .word _ => false
  | .bytes _ | .list _ => true
  | .record fields => anyDynamic fields

def anyDynamic : List Value → Bool
  | [] => false
  | v :: vs => v.isDynamic || anyDynamic vs

end

mutual

def Kind.isDynamic : Kind → Bool
  | .word => false
  | .bytes | .list _ => true
  | .record fields => Kind.anyDynamic fields

def Kind.anyDynamic : List Kind → Bool
  | [] => false
  | k :: ks => k.isDynamic || Kind.anyDynamic ks

end

mutual

def Kind.admits : Kind → Value → Bool
  | .word, .word _ => true
  | .bytes, .bytes _ => true
  | .list item, .list items => items.all item.admits
  | .record kinds, .record fields => Kind.admitsAll kinds fields
  | _, _ => false

def Kind.admitsAll : List Kind → List Value → Bool
  | [], [] => true
  | k :: ks, v :: vs => k.admits v && Kind.admitsAll ks vs
  | _, _ => false

end

/-! ## Encoding -/

def wordOf (n : Nat) : Bytes := bytesOfNat 32 n

/-- The bytes filled up with zeros to whole words. -/
def padded (b : Bytes) : Bytes :=
  b ++ List.replicate ((32 - b.length % 32) % 32) 0

/-- One item of a sequence: whether it is referred to by offset, and its encoding. -/
structure Part where
  dynamic : Bool
  encoding : Bytes

def Part.headLength (p : Part) : Nat :=
  if p.dynamic then 32 else p.encoding.length

def headLength (parts : List Part) : Nat :=
  (parts.map Part.headLength).foldr (· + ·) 0

/-- The heads of the items; `tailAt` is where the encoding of the next dynamic item begins. -/
def heads (tailAt : Nat) : List Part → Bytes
  | [] => []
  | p :: rest =>
    if p.dynamic then wordOf tailAt ++ heads (tailAt + p.encoding.length) rest
    else p.encoding ++ heads tailAt rest

def tails : List Part → Bytes
  | [] => []
  | p :: rest => if p.dynamic then p.encoding ++ tails rest else tails rest

/-- The heads of the items and then the encodings that they refer to. -/
def layout (parts : List Part) : Bytes :=
  heads (headLength parts) parts ++ tails parts

mutual

def Value.encode : Value → Bytes
  | .word w => w.bytes
  | .bytes b => wordOf b.length ++ padded b
  | .list items => wordOf items.length ++ layout (partsOf items)
  | .record fields => layout (partsOf fields)

def partsOf : List Value → List Part
  | [] => []
  | v :: vs => ⟨v.isDynamic, v.encode⟩ :: partsOf vs

end

def encodeAll (values : List Value) : Bytes :=
  layout (partsOf values)

/-! ## Decoding

The reader holds the sequence to which offsets refer and the part of it not yet read. Bytes that no
value claims are not looked at. -/

/-- What is left behind the first `k` bytes; `none` when there are fewer. -/
def behind? : Nat → Bytes → Option Bytes
  | 0, b => some b
  | _ + 1, [] => none
  | k + 1, _ :: b => behind? k b

structure Cursor where
  base : Bytes
  rest : Bytes

namespace Cursor

def start (bytes : Bytes) : Cursor := ⟨bytes, bytes⟩

def take? (c : Cursor) (k : Nat) : Option (Bytes × Cursor) :=
  let taken := c.rest.take k
  if taken.length = k then some (taken, { c with rest := c.rest.drop k }) else none

def word? (c : Cursor) : Option (Word × Cursor) :=
  match c.take? 32 with
  | none => none
  | some (taken, c) => (FixedBytes.ofBytes? taken).map fun w => (w, c)

def nat? (c : Cursor) : Option (Nat × Cursor) :=
  c.word?.map fun (w, c) => (w.toNat, c)

/-- Reads an offset and goes to the place that it names. -/
def follow? (c : Cursor) : Option (Cursor × Cursor) :=
  match c.nat? with
  | none => none
  | some (offset, c) => (behind? offset c.base).map fun b => (start b, c)

/-- The rest becomes the sequence to which offsets refer. -/
def rebase (c : Cursor) : Cursor := start c.rest

end Cursor

def repeatRead (read : Cursor → Option (Value × Cursor)) : Nat → Cursor → Option (List Value)
  | 0, _ => some []
  | k + 1, c =>
    match read c with
    | none => none
    | some (v, c) => (repeatRead read k c).map (v :: ·)

mutual

def Kind.read : Kind → Cursor → Option (Value × Cursor)
  | .word, c => c.word?.map fun (w, c) => (.word w, c)
  | .bytes, c =>
    match c.follow? with
    | none => none
    | some (child, c) =>
      match child.nat? with
      | none => none
      | some (length, child) => (child.take? length).map fun (b, _) => (.bytes b, c)
  | .list item, c =>
    match c.follow? with
    | none => none
    | some (child, c) =>
      match child.nat? with
      | none => none
      | some (length, child) =>
        if child.rest.length < length then none
        else (repeatRead item.read length child.rebase).map fun items => (.list items, c)
  | .record kinds, c =>
    if Kind.anyDynamic kinds then
      match c.follow? with
      | none => none
      | some (child, c) => (readAll kinds child).map fun (fields, _) => (.record fields, c)
    else (readAll kinds c).map fun (fields, c) => (.record fields, c)

def readAll : List Kind → Cursor → Option (List Value × Cursor)
  | [], c => some ([], c)
  | k :: ks, c =>
    match k.read c with
    | none => none
    | some (v, c) =>
      match readAll ks c with
      | none => none
      | some (vs, c) => some (v :: vs, c)

end

def decodeAll (kinds : List Kind) (bytes : Bytes) : Option (List Value) :=
  (readAll kinds (.start bytes)).map (·.1)

/-! ## Words -/

namespace Value

def ofNat (n : Nat) : Value := .word (.ofNat n)

def ofBool (b : Bool) : Value := ofNat (if b then 1 else 0)

def ofAddress (a : FixedBytes 20) : Value := ofNat a.toNat

def toNat? : Value → Option Nat
  | .word w => some w.toNat
  | _ => none

/-- Any word besides zero counts as true. -/
def toBool? : Value → Option Bool
  | .word w => some (!w.isZero)
  | _ => none

/-- The lowest byte of a word. -/
def toByte? (v : Value) : Option UInt8 :=
  v.toNat?.map UInt8.ofNat

def toWord64? (v : Value) : Option UInt64 :=
  v.toNat?.map UInt64.ofNat

/-- The lowest 20 bytes of a word. -/
def toAddress? (v : Value) : Option (FixedBytes 20) :=
  v.toNat?.map FixedBytes.ofNat

def toWord? : Value → Option Word
  | .word w => some w
  | _ => none

def toBytes? : Value → Option Bytes
  | .bytes b => some b
  | _ => none

end Value

end Registrar.Abi
