/-! Blank characters: the Unicode property `White_Space`, and text trimmed of them at both ends. -/
namespace Registrar.Text
set_option autoImplicit false

/-- The code points with the property `White_Space`, as inclusive ranges in ascending order. -/
def blankRanges : List (Nat × Nat) :=
  [(0x9, 0xd), (0x20, 0x20), (0x85, 0x85), (0xa0, 0xa0), (0x1680, 0x1680), (0x2000, 0x200a),
    (0x2028, 0x2029), (0x202f, 0x202f), (0x205f, 0x205f), (0x3000, 0x3000)]

def isBlank (c : Char) : Bool :=
  blankRanges.any fun r => r.1 ≤ c.toNat && c.toNat ≤ r.2

def trimEnd (cs : List Char) : List Char :=
  (cs.reverse.dropWhile isBlank).reverse

def trim (cs : List Char) : List Char :=
  trimEnd (cs.dropWhile isBlank)

def trimmed (s : String) : String :=
  String.ofList (trim s.toList)

def isAllBlank (s : String) : Bool :=
  s.toList.all isBlank

/-- The text without blanks around it; nothing for a text that is missing or blank. -/
def filled? (s : Option String) : Option String :=
  match s with
  | none => none
  | some s => if isAllBlank s then none else some (trimmed s)

/-! ## Cutting at the first match -/

/-- The text behind `pat` at its start. -/
def behind? (pat cs : List Char) : Option (List Char) :=
  if pat.isPrefixOf cs then some (cs.drop pat.length) else none

/-- The text before the first place where `pat` occurs and the text after that occurrence. -/
def cutAt? (pat : List Char) : List Char → Option (List Char × List Char)
  | [] => if pat.isEmpty then some ([], []) else none
  | c :: cs =>
    if pat.isPrefixOf (c :: cs) then some ([], (c :: cs).drop pat.length)
    else (cutAt? pat cs).map fun r => (c :: r.1, r.2)

def occursIn (pat : List Char) (cs : List Char) : Bool :=
  (cutAt? pat cs).isSome

/-- The parts between the occurrences of a character; there is always at least one part. -/
def splitAt (sep : Char) : List Char → List (List Char)
  | [] => [[]]
  | c :: cs =>
    if c = sep then [] :: splitAt sep cs
    else match splitAt sep cs with
      | [] => [[c]]
      | p :: ps => (c :: p) :: ps

end Registrar.Text
