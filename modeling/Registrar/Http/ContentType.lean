import Registrar.Text.Blank

/-! Media types in the header of a request: which of them announce JSON. -/
namespace Registrar.Http
set_option autoImplicit false

/-- The characters of a name besides letters and digits. -/
def tokenMarks : List Char :=
  "!#$%&'*+-.^_`|~".toList

def isTokenChar (c : Char) : Bool :=
  c.isAlphanum || tokenMarks.contains c

/-! ## Parameters -/

def isQuotable (c : Char) : Bool :=
  32 ≤ c.toNat && c.toNat ≠ 127

def skipToQuote : List Char → Option (List Char)
  | [] => none
  | c :: r => if c = '"' then some r else if isQuotable c then skipToQuote r else none

/-- Reads a quoted value behind its first quote. It has at least one character, which may be a quote. -/
def skipQuoted : List Char → Option (List Char)
  | [] => none
  | c :: r => if isQuotable c then skipToQuote r else none

/-- Reads the blanks behind a quoted value and the separator. -/
def afterQuoted (rest : List Char) : Option (List Char) :=
  match rest.dropWhile (· = ' ') with
  | [] => some []
  | ';' :: r => some r
  | _ => none

/-- Reads the value of a parameter and the separator behind it. -/
def skipValue : List Char → Option (List Char)
  | '"' :: r =>
    match skipQuoted r with
    | some rest => afterQuoted rest
    | none => none
  | cs =>
    match cs.dropWhile isTokenChar with
    | [] => some []
    | ';' :: r => if (cs.takeWhile isTokenChar).isEmpty then none else some r
    | _ => none

/-- Whether the text is a list of parameters; at most `fuel` of them are read. -/
def areParameters : Nat → List Char → Bool
  | _, [] => true
  | 0, _ :: _ => false
  | fuel + 1, cs =>
    let name := cs.dropWhile (· = ' ')
    match name.dropWhile isTokenChar with
    | '=' :: value =>
      if (name.takeWhile isTokenChar).isEmpty then false
      else
        match skipValue value with
        | some rest => areParameters fuel rest
        | none => false
    | [] => name.isEmpty
    | _ => false

/-! ## Types -/

/-- The part before the last plus sign and the part behind it, if there is one. -/
def splitSuffix (cs : List Char) : List Char × Option (List Char) :=
  let reversed := cs.reverse
  let suffix := reversed.takeWhile (· ≠ '+')
  match reversed.dropWhile (· ≠ '+') with
  | [] => (cs, none)
  | _ :: rest => if rest.isEmpty then (cs, none) else (rest.reverse, some suffix.reverse)

def lowerCase (cs : List Char) : List Char :=
  cs.map Char.toLower

/-- The media type is `application/json`, or one of `application` with the suffix `json`; letters may
have either case and parameters may follow. A header that is not ASCII announces nothing. -/
def announcesJson (header : String) : Bool :=
  let cs := header.toList
  let main := cs.takeWhile isTokenChar
  match cs.dropWhile isTokenChar with
  | '/' :: r =>
    let sub := r.takeWhile isTokenChar
    let wellFormed := match r.dropWhile isTokenChar with
      | [] => true
      | ';' :: parameters => !sub.isEmpty && areParameters parameters.length parameters
      | _ => false
    let (base, suffix) := splitSuffix sub
    wellFormed && cs.all (·.toNat < 128) && lowerCase main = "application".toList
      && (lowerCase base = "json".toList || suffix.map lowerCase = some "json".toList)
  | _ => false

end Registrar.Http
