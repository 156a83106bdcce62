import Registrar.Net.NameMapping
import Registrar.Net.Punycode
import Registrar.Text.Direction
import Registrar.Text.Joining

/-! Domain names of any script: how the bytes of a host are read as a name, and which names there
are. -/
namespace Registrar.Net.DomainName
set_option autoImplicit false

/-! ## Characters -/

/-- Characters of ASCII that no name may hold. -/
def isForbidden (c : Char) : Bool :=
  c.toNat ≤ 0x20 || c.toNat = 0x7f || "%#/:<>?@[\\]^|".toList.contains c

def isAscii (c : Char) : Bool :=
  c.toNat < 0x80

/-- The name that a text stands for, its characters in composed form. -/
def ofText? (cs : List Char) : Option (List Char) :=
  match cs.mapM standsFor? with
  | none => none
  | some parts =>
    let name := Text.Composition.composed parts.flatten
    if name.any isForbidden then none else some name

/-! ## Labels -/

/-- Labels beyond ASCII have at most this many characters. -/
def maxLabelLength : Nat := 1000

/-- Labels written in ASCII for another script have at most this many characters. -/
def maxEncodedLength : Nat := 2000

/-- What a label with the mark `xn--` stands for: a label of characters that stand for themselves, in
composed form. -/
def decoded? (encoded : List Char) : Option (List Char) :=
  if encoded.isEmpty || !encoded.all isAscii || encoded.getLast? = some '-'
    || maxEncodedLength < encoded.length then none
  else
    match Punycode.decode? encoded with
    | none => none
    | some label => if ofText? label = some label then some label else none

/-- A label as it is meant: one with the mark `xn--` decoded, any other as it stands. -/
def meant? (label : List Char) : Option (List Char) :=
  match Text.behind? "xn--".toList label with
  | some encoded => decoded? encoded
  | none => some label

/-- A label does not begin with a mark, its joining controls are in place, and it is not too long. -/
def isLabel (label : List Char) : Bool :=
  label.all isAscii ||
    (!label.head?.any Text.isMark && Text.controlsFit [] label && label.length ≤ maxLabelLength)

/-! ## Names -/

/-- Where one character is written from the right, every label keeps its direction. -/
def keepDirections (labels : List (List Char)) : Bool :=
  !labels.any (·.any fun c => (Text.Direction.ofChar c).isFromRight)
    || labels.all Text.keepsDirection

/-- The labels between the points of a name are well formed alone and together. -/
def isName (name : List Char) : Bool :=
  match (Text.splitAt '.' name).mapM meant? with
  | none => false
  | some labels => labels.all isLabel && keepDirections labels

def ofBytes? (bytes : List UInt8) : Option (List Char) :=
  match String.fromUTF8? ⟨bytes.toArray⟩ with
  | none => none
  | some text => (ofText? text.toList).filter isName

end Registrar.Net.DomainName
