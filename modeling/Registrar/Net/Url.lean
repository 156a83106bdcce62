import Registrar.Net.DomainName

/-! Which texts are absolute URLs: the scheme, the host by the rules of the scheme, and the port. What
comes behind the port is never at fault. -/
namespace Registrar.Net.Url
set_option autoImplicit false

/-! ## Faults -/

inductive Fault where
  /-- There is no scheme. -/
  | relative
  | emptyHost
  | badName
  | badCharacter
  | badShortAddress
  | badLongAddress
  | badPort
deriving DecidableEq, Repr

def Fault.message : Fault → String
  | relative => "relative URL without a base"
  | emptyHost => "empty host"
  | badName => "invalid international domain name"
  | badCharacter => "invalid domain character"
  | badShortAddress => "invalid IPv4 address"
  | badLongAddress => "invalid IPv6 address"
  | badPort => "invalid port number"

/-! ## Numbers as hosts -/

/-- The value of a part of a numeric host: decimal, octal behind a zero, hexadecimal behind `0x`. -/
inductive HostNumber where
  | value (n : Nat)
  | overflow
  | notNumber

def hostNumber (cs : List Char) : HostNumber :=
  let (base, digits) := match cs with
    | '0' :: 'x' :: r => (16, r)
    | '0' :: 'X' :: r => (16, r)
    | '0' :: d :: r => (8, d :: r)
    | r => (10, r)
  if cs.isEmpty then .notNumber
  else if digits.all fun c => (Text.hexValue? c.toNat).any (· < base) then
    match Text.inBase? base 0 digits with
    | some n => if n < UInt32.size then .value n else .overflow
    | none => .notNumber
  else .notNumber

/-- The parts of a host between points, without an empty last one. -/
def hostParts (host : List Char) : List (List Char) :=
  let parts := Text.splitAt '.' host
  if parts.length > 1 && parts.getLast? = some [] then parts.dropLast else parts

/-- A host whose last part is a number has to be an address. -/
def endsInNumber (host : List Char) : Bool :=
  match (hostParts host).getLast? with
  | none => false
  | some last =>
    (!last.isEmpty && last.all Text.isDigit) ||
      match hostNumber last with
      | .notNumber => false
      | _ => true

/-- At most four numbers of one byte each, the last of which may fill the bytes that are left. -/
def isShortAddress (host : List Char) : Bool :=
  let parts := hostParts host
  let numbers := parts.filterMap fun p =>
    match hostNumber p with
    | .value n => some n
    | _ => none
  numbers.length = parts.length && parts.length ≤ 4 && (numbers.dropLast.all (· < 256))
    && numbers.getLast?.any fun n => n < Nat.pow 256 (5 - parts.length)

/-! ## Addresses in brackets -/

/-- Reads four numbers of one byte up to the end of the text. -/
def isByteQuad (cs : List Char) : Bool :=
  let parts := Text.splitAt '.' cs
  parts.length = 4 && parts.all fun p =>
    !p.isEmpty && p.all Text.isDigit && (p.length = 1 || p.head? ≠ some '0')
      && Text.digitsValue p < 256

/-- Whether the text is a row of groups with single colons between them, of which there are `size`; the
last two groups may be four bytes. -/
def groupCount? (cs : List Char) : Option Nat :=
  if cs.isEmpty then some 0
  else
    let parts := Text.splitAt ':' cs
    let isGroup := fun (p : List Char) =>
      !p.isEmpty && p.length ≤ 4 && p.all fun c => (Text.hexValue? c.toNat).isSome
    if parts.all isGroup then some parts.length
    else
      match parts.getLast? with
      | none => none
      | some last =>
        if parts.dropLast.all isGroup && isByteQuad last then some (parts.length + 1) else none

/-- Eight groups, or fewer with two colons in one place. -/
def isLongAddress (cs : List Char) : Bool :=
  match Text.cutAt? "::".toList cs with
  | none => groupCount? cs = some 8
  | some (before, after) =>
    match groupCount? before, groupCount? after with
    | some m, some n => m + n ≤ 7 && !before.contains '.'
    | _, _ => false

/-! ## Names as hosts -/

/-- The bytes of a text in which `%` with two digits stands for a byte. -/
def percentDecoded : List Char → List UInt8
  | '%' :: a :: b :: r =>
    match Text.hexValue? a.toNat, Text.hexValue? b.toNat with
    | some hi, some lo => UInt8.ofNat (16 * hi + lo) :: percentDecoded r
    | _, _ => String.utf8EncodeChar '%' ++ percentDecoded (a :: b :: r)
  | c :: r => String.utf8EncodeChar c ++ percentDecoded r
  | [] => []

/-! ## Hosts -/

def bracketFault? (r : List Char) : Option Fault :=
  if r.getLast? = some ']' && isLongAddress r.dropLast then none else some .badLongAddress

def knownHostFault? (host : List Char) : Option Fault :=
  match host with
  | [] => some .emptyHost
  | '[' :: r => bracketFault? r
  | _ =>
    match DomainName.ofBytes? (percentDecoded host) with
    | none => some .badName
    | some [] => some .emptyHost
    | some name =>
      if endsInNumber name && !isShortAddress name then some .badShortAddress else none

/-- The host of any other scheme is hardly looked into. -/
def opaqueHostFault? (host : List Char) : Option Fault :=
  match host with
  | '[' :: r => bracketFault? r
  | _ =>
    if host.any fun c => c.toNat = 0 || " #/:<>?@[\\]^|".toList.contains c then some .badCharacter
    else none

/-! ## Authorities -/

/-- What an authority ends before. -/
def endsAuthority (known : Bool) (c : Char) : Bool :=
  c = '/' || c = '?' || c = '#' || (known && c = '\\')

/-- What stands before the last `@` of an authority, if there is one, and what stands behind it. -/
def splitUser (authority : List Char) : Option (List Char) × List Char :=
  let behind := (authority.reverse.takeWhile (· ≠ '@')).reverse
  if behind.length = authority.length then (none, authority)
  else (some (authority.take (authority.length - behind.length)).dropLast, behind)

/-- The host up to a colon outside brackets. -/
def hostOf : Bool → List Char → List Char
  | _, [] => []
  | inside, c :: r =>
    if c = ':' && !inside then []
    else if c = '[' then c :: hostOf true r
    else if c = ']' then c :: hostOf false r
    else c :: hostOf inside r

/-- The port ends before a backslash in any scheme. -/
def portFault? (cs : List Char) : Option Fault :=
  let digits := cs.takeWhile (· ≠ '\\')
  if digits.all Text.isDigit && Text.digitsValue digits < UInt16.size then none else some .badPort

/-- The fault of a host with or without a port; a host that is empty has no port. -/
def hostAndPortFault? (known : Bool) (cs : List Char) : Option Fault :=
  let host := hostOf false cs
  let port? := match cs.drop host.length with
    | ':' :: port => some port
    | _ => none
  let hostFault := if known then knownHostFault? host else opaqueHostFault? host
  if host.isEmpty && port?.isSome then some .emptyHost
  else hostFault <|> port?.bind portFault?

/-- The fault of user, host and port, with something behind them or at the end of the text. Behind a
user there has to be a host; a colon alone is no user. -/
def authorityFault? (known atEnd : Bool) (cs : List Char) : Option Fault :=
  let (user?, behind) := splitUser cs
  let needsHost := match user? with
    | none | some [':'] => false
    | some [] => !atEnd
    | some _ => true
  if needsHost && (hostOf false behind).isEmpty then some .emptyHost
  else hostAndPortFault? known behind

def leadingAuthorityFault? (known : Bool) (cs : List Char) : Option Fault :=
  let authority := cs.takeWhile fun c => !endsAuthority known c
  authorityFault? known (authority.length = cs.length) authority

/-! ## Whole URLs -/

def knownSchemes : List String := ["http", "https", "ws", "wss", "ftp"]

def isSchemeChar (c : Char) : Bool :=
  c.isAlphanum || c = '+' || c = '-' || c = '.'

/-- The scheme in lower case and the text behind its colon. -/
def splitScheme (cs : List Char) : Option (String × List Char) :=
  match cs with
  | [] => none
  | c :: _ =>
    match cs.dropWhile isSchemeChar with
    | ':' :: r =>
      if c.isAlpha then some (String.ofList ((cs.takeWhile isSchemeChar).map Char.toLower), r) else none
    | _ => none

def isDriveLetter (cs : List Char) : Bool :=
  match cs with
  | [c, d] => c.isAlpha && (d = ':' || d = '|')
  | _ => false

/-- The host of a file may be left out. -/
def fileFault? (cs : List Char) : Option Fault :=
  let isSlash := fun (c : Char) => c = '/' || c = '\\'
  match cs with
  | a :: b :: r =>
    if isSlash a && isSlash b then
      let host := r.takeWhile fun c => !endsAuthority true c
      if host.isEmpty || isDriveLetter host then none else knownHostFault? host
    else none
  | _ => none

/-- Drops control characters and blanks at both ends, and tabs and line ends anywhere. -/
def cleaned (cs : List Char) : List Char :=
  let isControl := fun (c : Char) => c.toNat ≤ 0x20
  let trimmed := ((cs.dropWhile isControl).reverse.dropWhile isControl).reverse
  trimmed.filter fun c => c ≠ '\t' && c ≠ '\n' && c ≠ '\r'

/-- Why a text is no absolute URL; nothing for one that is. -/
def fault? (text : String) : Option Fault :=
  match splitScheme (cleaned text.toList) with
  | none => some .relative
  | some (scheme, rest) =>
    if scheme = "file" then fileFault? rest
    else if knownSchemes.contains scheme then
      leadingAuthorityFault? true (rest.dropWhile fun c => c = '/' || c = '\\')
    else
      match rest with
      | '/' :: '/' :: r => leadingAuthorityFault? false r
      | _ => none

def isAbsolute (text : String) : Bool :=
  (fault? text).isNone

end Registrar.Net.Url
