import Registrar.Json.Parser
import Registrar.Json.Printer

/-! Printed values are read back. The parser takes in the characters of a printed value and stands
behind them where it would stand if it had been handed the value itself. -/
namespace Registrar.Json
set_option autoImplicit false

open Lexeme (NumberPart Partial Mode)

/-! ## Values that can be printed -/

/-- How far a number has been read with its first character. -/
def Lexeme.NumberPart.first? (c : Char) : Option NumberPart :=
  if c = '-' then some .minus
  else if c = '0' then some .zero
  else if c.isDigit then some .integer
  else none

def isNumber : List Char → Bool
  | [] => false
  | c :: rest =>
    (((NumberPart.first? c).bind fun part => rest.foldlM NumberPart.next? part).map
      NumberPart.isComplete).getD false

/-- A value whose text is read as JSON, with containers nested at most so deep. -/
inductive Printable : Nat → Json → Prop
  | null {room : Nat} : Printable room .null
  | bool {room : Nat} (b : Bool) : Printable room (.bool b)
  | number {room : Nat} (digits : String) (h : isNumber digits.toList = true) :
    Printable room (.number digits)
  | string {room : Nat} (s : String) : Printable room (.string s)
  | array {room : Nat} (items : List Json) (h : ∀ v ∈ items, Printable room v) :
    Printable (room + 1) (.array items)
  | object {room : Nat} (members : List (String × Json)) (h : ∀ m ∈ members, Printable room m.2) :
    Printable (room + 1) (.object members)

/-! ### Whole numbers -/

/-- No zero stands in front of a number. -/
theorem head_toDigits_ne {n : Nat} (h : 0 < n) : (Nat.toDigits 10 n).head? ≠ some '0' := by
  induction n using Nat.strongRecOn with
  | ind n ih =>
    by_cases small : n < 10
    · rw [Nat.toDigits_of_lt_base small, List.head?_cons]
      exact fun zero => Nat.ne_of_gt h (Nat.digitChar_eq_zero.1 (Option.some.inj zero))
    · have rest := ih (n / 10) (by omega) (by omega)
      rw [Nat.toDigits_of_base_le (by decide) (by omega)]
      cases digits : Nat.toDigits 10 (n / 10) with
      | nil => exact absurd digits Nat.toDigits_ne_nil
      | cons c cs =>
        rw [digits] at rest
        exact rest

theorem foldlM_digits {cs : List Char} (h : ∀ c ∈ cs, c.isDigit = true) :
    cs.foldlM NumberPart.next? .integer = some .integer := by
  induction cs with
  | nil => rfl
  | cons c cs ih =>
    have next : NumberPart.integer.next? c = some .integer := if_pos (h c List.mem_cons_self)
    rw [List.foldlM_cons, next]
    exact ih fun c hc => h c (List.mem_cons_of_mem _ hc)

theorem isNumber_toDigits (n : Nat) : isNumber (Nat.toDigits 10 n) = true := by
  by_cases zero : n = 0
  · rw [zero]
    decide
  have head := head_toDigits_ne (Nat.pos_of_ne_zero zero)
  have digit : ∀ c ∈ Nat.toDigits 10 n, c.isDigit = true :=
    fun c hc => Nat.isDigit_of_mem_toDigits (by decide) (by decide) hc
  cases digits : Nat.toDigits 10 n with
  | nil => exact absurd digits Nat.toDigits_ne_nil
  | cons c cs =>
    rw [digits] at head digit
    have one := digit c List.mem_cons_self
    have plus : c ≠ '-' := by
      rintro rfl
      cases one
    have positive : c ≠ '0' := fun same => head (by rw [same]; rfl)
    have first : NumberPart.first? c = some .integer := by
      rw [NumberPart.first?, if_neg plus, if_neg positive, if_pos one]
    rw [isNumber, first, Option.bind_some,
      foldlM_digits fun c hc => digit c (List.mem_cons_of_mem _ hc)]
    rfl
theorem printable_ofNat (room n : Nat) : Printable room (ofNat n) := by
  refine .number _ ?_
  rw [Nat.toString_eq_repr, Nat.toList_repr]
  exact isNumber_toDigits n

/-! ## Lexemes -/

/-- What may stand behind a value. -/
def Delimited : List Char → Prop
  | [] => True
  | c :: _ => c = ',' ∨ c = ']' ∨ c = '\x7d'

namespace Lexeme

theorem scanFrom_cons {mode mode' : Mode} {c : Char} {lexemes : List Lexeme}
    (h : advance? mode c = some (lexemes, mode')) (rest : List Char) :
    scanFrom mode (c :: rest) = lexemes ++ scanFrom mode' rest := by
  simp only [scanFrom, h]

/-! ### Strings -/

/-- A string read so far without halves of surrogate pairs. -/
def inPlain (latestFirst : List Char) : Mode :=
  .inString ⟨latestFirst, false, none⟩

theorem hexValue?_hexChar {n : Nat} (h : n < 16) :
    Text.hexValue? (Text.hexChar n).toNat = some n := by
  revert n
  decide

/-- The code unit of an escaped character below the blank. -/
theorem pushUnit_of_low {c : Char} (low : c.toNat < 0x20) (latestFirst : List Char) :
    Partial.pushUnit ⟨latestFirst, false, none⟩ c.toNat = ⟨c :: latestFirst, false, none⟩ := by
  have upper : Partial.isUpper c.toNat = false := by
    simp only [Partial.isUpper, Bool.and_eq_false_iff, decide_eq_false_iff_not]
    omega
  have lower : Partial.isLower c.toNat = false := by
    simp only [Partial.isLower, Bool.and_eq_false_iff, decide_eq_false_iff_not]
    omega
  simp [Partial.pushUnit, upper, lower]

theorem scanFrom_escape (latestFirst : List Char) (c : Char) (rest : List Char) :
    scanFrom (inPlain latestFirst) (escape c ++ rest) =
      scanFrom (inPlain (c :: latestFirst)) rest := by
  -- Seven characters have an escape of their own; any other one below the blank is a code unit.
  unfold escape
  split
  case isTrue h => subst h; rfl
  split
  case isTrue h => subst h; rfl
  split
  case isTrue h => subst h; rfl
  split
  case isTrue h => subst h; rfl
  split
  case isTrue h => subst h; rfl
  split
  case isTrue h => subst h; rfl
  split
  case isTrue h => subst h; rfl
  split
  case isTrue low =>
    have upper := hexValue?_hexChar (n := c.toNat / 16) (by omega)
    have lower := hexValue?_hexChar (n := c.toNat % 16) (by omega)
    have whole : 16 * (16 * 0 + c.toNat / 16) + c.toNat % 16 = c.toNat := by omega
    let p : Partial := ⟨latestFirst, false, none⟩
    have opened : scanFrom (inPlain latestFirst) ('\\' :: 'u' :: '0' :: '0' ::
        Text.hexChar (c.toNat / 16) :: Text.hexChar (c.toNat % 16) :: rest) =
      scanFrom (.inUnit p 2 0)
        (Text.hexChar (c.toNat / 16) :: Text.hexChar (c.toNat % 16) :: rest) := rfl
    have first : advance? (.inUnit p 2 0) (Text.hexChar (c.toNat / 16)) =
        some ([], .inUnit p 1 (16 * 0 + c.toNat / 16)) := by
      rw [advance?, upper]
      rfl
    have last : advance? (.inUnit p 1 (16 * 0 + c.toNat / 16)) (Text.hexChar (c.toNat % 16)) =
        some ([], inPlain (c :: latestFirst)) := by
      rw [advance?, lower]
      dsimp only
      rw [whole, pushUnit_of_low low, if_pos (Nat.le_refl 1), inPlain]
    exact opened.trans ((scanFrom_cons first _).trans (scanFrom_cons last rest))
  case isFalse quote backslash _ _ _ _ _ high =>
    have step : advance? (inPlain latestFirst) c = some ([], inPlain (c :: latestFirst)) := by
      simp [inPlain, advance?, quote, backslash, high, Partial.push, Partial.settle]
    rw [List.singleton_append, scanFrom_cons step, List.nil_append]

theorem scanFrom_quoted (s : String) (rest : List Char) :
    scanFrom .between (quoted s ++ rest) = .string s :: scanFrom .between rest := by
  have body (cs latestFirst : List Char) :
      scanFrom (inPlain latestFirst) (cs.flatMap escape ++ '"' :: rest) =
        .string (String.ofList (latestFirst.reverse ++ cs)) :: scanFrom .between rest := by
    induction cs generalizing latestFirst with
    | nil =>
      have closed : advance? (inPlain latestFirst) '"' =
          some ([.string (String.ofList latestFirst.reverse)], .between) := rfl
      rw [List.append_nil]
      exact scanFrom_cons closed rest
    | cons c cs ih =>
      rw [List.flatMap_cons, List.append_assoc, scanFrom_escape, ih, List.reverse_cons,
        List.append_assoc, List.singleton_append]
  have opened : scanFrom .between (quoted s ++ rest) =
      scanFrom (inPlain []) (s.toList.flatMap escape ++ '"' :: rest) := by
    rw [quoted, List.append_assoc]
    rfl
  rw [opened, body, List.reverse_nil, List.nil_append, String.ofList_toList]

/-! ### Numbers -/

namespace NumberPart

theorem begin?_of_first? {c : Char} {part : NumberPart} (h : first? c = some part) :
    Lexeme.begin? c = some ([], .inNumber part [c]) := by
  unfold first? at h
  split at h
  case isTrue minus => subst minus; cases h; rfl
  split at h
  case isTrue zero => subst zero; cases h; rfl
  split at h
  case isTrue digit =>
    cases h
    have gap : isGap c = false := by
      refine Bool.eq_false_iff.2 fun blank => ?_
      simp only [isGap, Bool.or_eq_true, decide_eq_true_eq] at blank
      obtain ((rfl | rfl) | rfl) | rfl := blank <;> cases digit
    unfold Lexeme.begin?
    rw [gap, if_neg Bool.false_ne_true]
    split
    all_goals first | exact if_pos digit | contradiction
  case isFalse => cases h

/-- No number goes on with what stands behind a value. -/
theorem ends (part : NumberPart) {c : Char} {rest : List Char} (h : Delimited (c :: rest)) :
    part.next? c = none ∧ part.isBlocked c = false ∧
      ∃ lexemes, Lexeme.begin? c = some (lexemes, .between) := by
  obtain rfl | rfl | rfl := h <;> exact ⟨by cases part <;> rfl, by cases part <;> rfl, _, rfl⟩

end NumberPart

theorem scanFrom_inNumber {part last : NumberPart} {cs rest : List Char}
    (reads : cs.foldlM NumberPart.next? part = some last) (complete : last.isComplete = true)
    (delimited : Delimited rest) (latestFirst : List Char) :
    scanFrom (.inNumber part latestFirst) (cs ++ rest) =
      .number (String.ofList (latestFirst.reverse ++ cs)) :: scanFrom .between rest := by
  induction cs generalizing part latestFirst with
  | nil =>
    cases reads
    rw [List.append_nil, List.nil_append]
    cases rest with
    | nil => simp only [scanFrom, atEnd, complete, if_true]
    | cons c rest =>
      obtain ⟨ended, unblocked, lexemes, next⟩ := last.ends delimited
      have step : advance? (.inNumber last latestFirst) c =
          some (.number (String.ofList latestFirst.reverse) :: lexemes, .between) := by
        rw [advance?, ended]
        simp [complete, unblocked, next]
      have next : advance? .between c = some (lexemes, .between) := next
      rw [scanFrom_cons step, scanFrom_cons next, List.cons_append]
  | cons c cs ih =>
    obtain ⟨part', next, reads⟩ := Option.bind_eq_some_iff.1 reads
    have step : advance? (.inNumber part latestFirst) c =
        some ([], .inNumber part' (c :: latestFirst)) := by
      rw [advance?, next]
    rw [List.cons_append, scanFrom_cons step, List.nil_append, ih reads, List.reverse_cons,
      List.append_assoc, List.singleton_append]

theorem scanFrom_number {digits rest : List Char} (h : isNumber digits = true)
    (delimited : Delimited rest) :
    scanFrom .between (digits ++ rest) =
      .number (String.ofList digits) :: scanFrom .between rest := by
  cases digits with
  | nil => cases h
  | cons c cs =>
    rw [isNumber, Option.getD_eq_iff] at h
    obtain ⟨whole⟩ | ⟨-, ⟨⟩⟩ := h
    obtain ⟨last, whole, closed⟩ := Option.map_eq_some_iff.1 whole
    obtain ⟨part, first, reads⟩ := Option.bind_eq_some_iff.1 whole
    have step : advance? .between c = some ([], .inNumber part [c]) :=
      NumberPart.begin?_of_first? first
    rw [List.cons_append, scanFrom_cons step, List.nil_append,
      scanFrom_inNumber reads closed delimited]
    rfl

end Lexeme

/-! ## Values -/

def readText (p : Progress) (text : List Char) : Json × List Lexeme :=
  readFrom p (Lexeme.scan text)

variable {stack : List Frame} {expecting : Expecting}

theorem readText_cons {c : Char} (lexeme : Lexeme) {rest : List Char}
    (h : Lexeme.begin? c = some ([lexeme], .between)) :
    readText (.open stack expecting) (c :: rest) =
      readText (advance stack expecting lexeme) rest := by
  have step : Lexeme.advance? .between c = some ([lexeme], .between) := h
  rw [readText, Lexeme.scan, Lexeme.scanFrom_cons step]
  rfl

/-- A value is due here. -/
def Expecting.IsValue (expecting : Expecting) : Prop :=
  expecting = .value ∨ expecting = .valueOrClose

theorem advance_due {lexeme : Lexeme} (due : expecting.IsValue) (gap : lexeme ≠ .gap)
    (close : lexeme ≠ .closeArray) : advance stack expecting lexeme = beginValue stack lexeme := by
  have item (items : List Json) (stack : List Frame) :
      beginItem items stack lexeme = beginValue (.array items :: stack) lexeme := by
    cases lexeme <;> first | rfl | contradiction
  obtain rfl | rfl := due
  · match stack with
    | [] => rfl
    | .array items :: stack => exact item items stack
    | .object .. :: stack => rfl
  · exact if_neg close

theorem advance_scalar {lexeme : Lexeme} {v : Json} (due : expecting.IsValue)
    (h : lexeme.scalar? = some v) : advance stack expecting lexeme = deliver stack v := by
  have begins : beginValue stack lexeme = deliver stack v := by
    cases lexeme <;> cases h <;> rfl
  refine (advance_due due ?_ ?_).trans begins <;> rintro rfl <;> cases h

theorem closeTop_of_room {frame : Frame} (room : stack.length < depthLimit) :
    closeTop (frame :: stack) = deliver stack frame.close := by
  have none : stack.drop (depthLimit - 1) = [] := List.drop_eq_nil_of_le (by omega)
  rw [closeTop, Frame.closeWithin, none]
  rfl

/-! ## Containers -/

theorem commaSeparated_cons (p : List Char) (rest : List (List Char)) :
    commaSeparated (p :: rest) = p ++ rest.flatMap (',' :: ·) := by
  induction rest generalizing p with
  | nil => rw [List.flatMap_nil, List.append_nil, commaSeparated]
  | cons q rest ih => rw [commaSeparated, ih, List.flatMap_cons, List.cons_append]; exact nofun

/-- How the containers of one kind are written, and what the reader waits for in them. -/
structure Container (α : Type) where
  frame : List α → Frame
  text : α → List Char
  first : Expecting
  next : Expecting
  close : Char

namespace Container

variable {α : Type} {c : Container α} {parts : List α} {rest : List Char}

/-- The reader takes in the marks of a container and each of its parts. -/
structure IsRead (c : Container α) (stack : List Frame) (parts : List α) : Prop where
  part : ∀ a ∈ parts, ∀ latestFirst expecting rest, expecting = c.first ∨ expecting = c.next →
    Delimited rest →
    readText (.open (c.frame latestFirst :: stack) expecting) (c.text a ++ rest) =
      readText (.open (c.frame (a :: latestFirst) :: stack) .commaOrClose) rest
  comma : ∀ latestFirst, advance (c.frame latestFirst :: stack) .commaOrClose .comma =
    .open (c.frame latestFirst :: stack) c.next
  closes : ∀ latestFirst expecting rest, expecting = c.first ∨ expecting = .commaOrClose →
    readText (.open (c.frame latestFirst :: stack) expecting) (c.close :: rest) =
      readText (deliver stack (c.frame latestFirst).close) rest
  delimits : ∀ rest, Delimited (c.close :: rest)

theorem IsRead.tail {a : α} (h : c.IsRead stack (a :: parts)) : c.IsRead stack parts where
  part b hb := h.part b (List.mem_cons_of_mem _ hb)
  comma := h.comma
  closes := h.closes
  delimits := h.delimits

theorem IsRead.delimited (h : c.IsRead stack parts) (texts : List (List Char)) (rest : List Char) :
    Delimited (texts.flatMap (',' :: ·) ++ c.close :: rest) := by
  cases texts with
  | nil => exact h.delimits rest
  | cons => exact .inl rfl

/-- The parts behind the first, each behind a comma. -/
theorem IsRead.separated (h : c.IsRead stack parts) (latestFirst : List α) (rest : List Char) :
    readText (.open (c.frame latestFirst :: stack) .commaOrClose)
        ((parts.map c.text).flatMap (',' :: ·) ++ c.close :: rest) =
      readText (.open (c.frame (parts.reverse ++ latestFirst) :: stack) .commaOrClose)
        (c.close :: rest) := by
  -- Behind each part stands a comma or the closing mark, so that the reader sees where it ends.
  induction parts generalizing latestFirst with
  | nil => rfl
  | cons a parts ih =>
    have here := h.part a List.mem_cons_self latestFirst c.next
      ((parts.map c.text).flatMap (',' :: ·) ++ c.close :: rest) (.inr rfl) (h.delimited _ rest)
    rw [List.map_cons, List.flatMap_cons, List.cons_append, List.cons_append, List.append_assoc,
      readText_cons _ rfl, h.comma, here, ih h.tail, List.reverse_cons, List.append_assoc,
      List.singleton_append]

/-- A container from behind its opening mark on. -/
theorem IsRead.body (h : c.IsRead stack parts) (rest : List Char) :
    readText (.open (c.frame [] :: stack) c.first)
        (commaSeparated (parts.map c.text) ++ c.close :: rest) =
      readText (deliver stack (c.frame parts.reverse).close) rest := by
  cases parts with
  | nil => exact h.closes [] c.first rest (.inl rfl)
  | cons a parts =>
    have here := h.part a List.mem_cons_self [] c.first
      ((parts.map c.text).flatMap (',' :: ·) ++ c.close :: rest) (.inl rfl) (h.delimited _ rest)
    rw [List.map_cons, commaSeparated_cons, List.append_assoc, here, h.tail.separated,
      h.closes _ _ _ (.inr rfl), List.reverse_cons]

end Container

/-! ## Values -/

/-- The reader takes in the text of a value, with room for so many containers in it. -/
def IsRead (room : Nat) (v : Json) : Prop :=
  ∀ ⦃stack : List Frame⦄ ⦃expecting : Expecting⦄ ⦃rest : List Char⦄, expecting.IsValue →
    stack.length + room ≤ depthLimit → Delimited rest →
    readText (.open stack expecting) (v.render ++ rest) = readText (deliver stack v) rest

variable {room : Nat} {rest : List Char}

theorem isRead_scalar (lexeme : Lexeme) {v : Json} (h : lexeme.scalar? = some v)
    (scans : ∀ {rest : List Char}, Delimited rest →
      Lexeme.scan (v.render ++ rest) = lexeme :: Lexeme.scan rest) : IsRead room v := by
  intro stack expecting rest due _ delimited
  rw [readText, scans delimited, readFrom, advance_scalar due h, readText]

/-! ### Arrays -/

theorem renderItems_eq (items : List Json) : renderItems items = items.map render := by
  induction items with
  | nil => rfl
  | cons v rest ih => rw [renderItems, ih, List.map_cons]

def arrays : Container Json :=
  ⟨.array, render, .valueOrClose, .value, ']'⟩

theorem arrays_isRead {items : List Json} (each : ∀ v ∈ items, IsRead room v)
    (deep : stack.length + (room + 1) ≤ depthLimit) : arrays.IsRead stack items where
  part v hv latestFirst expecting rest due delimited := by
    have within : (Frame.array latestFirst :: stack).length + room ≤ depthLimit := by
      rw [List.length_cons]
      omega
    exact each v hv due.symm within delimited
  comma _ := rfl
  closes latestFirst expecting rest due := by
    have closes : advance (.array latestFirst :: stack) expecting .closeArray =
        deliver stack (Frame.array latestFirst).close := by
      obtain rfl | rfl := due <;> exact closeTop_of_room (by omega)
    exact (readText_cons _ rfl).trans (congrArg (readText · rest) closes)
  delimits _ := .inr (.inl rfl)

theorem isRead_array {items : List Json} (each : ∀ v ∈ items, IsRead room v) :
    IsRead (room + 1) (.array items) := by
  intro stack expecting rest due deep _
  have opened : advance stack expecting .openArray = .open (.array [] :: stack) .valueOrClose :=
    advance_due due nofun nofun
  have body := (arrays_isRead each deep).body rest
  rw [arrays, Frame.close, List.reverse_reverse] at body
  rw [render, renderItems_eq, List.append_assoc]
  exact (readText_cons _ rfl).trans ((congrArg (readText · _) opened).trans body)

/-! ### Objects -/

def renderMember (m : String × Json) : List Char :=
  quoted m.1 ++ ':' :: m.2.render

theorem renderMembers_eq (members : List (String × Json)) :
    renderMembers members = members.map renderMember := by
  induction members with
  | nil => rfl
  | cons m rest ih => rw [renderMembers, ih, List.map_cons, renderMember]

def objects : Container (String × Json) :=
  ⟨fun latestFirst => .object latestFirst none, renderMember, .nameOrClose, .name, '\x7d'⟩

theorem readText_member {m : String × Json} (value : IsRead room m.2)
    (due : expecting = .nameOrClose ∨ expecting = .name)
    (deep : stack.length + (room + 1) ≤ depthLimit) (delimited : Delimited rest)
    (latestFirst : List (String × Json)) :
    readText (.open (.object latestFirst none :: stack) expecting) (renderMember m ++ rest) =
      readText (.open (.object (m :: latestFirst) none :: stack) .commaOrClose) rest := by
  have named : advance (.object latestFirst none :: stack) expecting (.string m.1) =
      .open (.object latestFirst (some m.1) :: stack) .colon := by
    obtain rfl | rfl := due <;> rfl
  have within : (Frame.object latestFirst (some m.1) :: stack).length + room ≤ depthLimit := by
    rw [List.length_cons]
    omega
  rw [renderMember, List.append_assoc, readText, Lexeme.scan, Lexeme.scanFrom_quoted, readFrom,
    named]
  exact (readText_cons .colon rfl).trans (value (.inl rfl) within delimited)

theorem objects_isRead {members : List (String × Json)} (each : ∀ m ∈ members, IsRead room m.2)
    (deep : stack.length + (room + 1) ≤ depthLimit) : objects.IsRead stack members where
  part m hm latestFirst _ _ due delimited :=
    readText_member (each m hm) due deep delimited latestFirst
  comma _ := rfl
  closes latestFirst expecting rest due := by
    have closes : advance (.object latestFirst none :: stack) expecting .closeObject =
        deliver stack (Frame.object latestFirst none).close := by
      obtain rfl | rfl := due <;> exact closeTop_of_room (by omega)
    exact (readText_cons _ rfl).trans (congrArg (readText · rest) closes)
  delimits _ := .inr (.inr rfl)

theorem isRead_object {members : List (String × Json)} (each : ∀ m ∈ members, IsRead room m.2) :
    IsRead (room + 1) (.object members) := by
  intro stack expecting rest due deep _
  have opened : advance stack expecting .openObject =
      .open (.object [] none :: stack) .nameOrClose :=
    advance_due due nofun nofun
  have body := (objects_isRead each deep).body rest
  rw [objects, Frame.close, List.reverse_reverse] at body
  rw [render, renderMembers_eq, List.append_assoc]
  exact (readText_cons _ rfl).trans ((congrArg (readText · _) opened).trans body)

/-! ### All values -/

theorem Printable.isRead {v : Json} (h : Printable room v) : IsRead room v := by
  induction h with
  | null => exact isRead_scalar .null rfl fun _ => rfl
  | bool b =>
    cases b
    · exact isRead_scalar (.bool false) rfl fun _ => rfl
    · exact isRead_scalar (.bool true) rfl fun _ => rfl
  | number digits h =>
    refine isRead_scalar (.number digits) rfl fun delimited => ?_
    have scans := Lexeme.scanFrom_number h delimited
    rwa [String.ofList_toList] at scans
  | string s => exact isRead_scalar (.string s) rfl fun _ => Lexeme.scanFrom_quoted s _
  | array items _ each => exact isRead_array each
  | object members _ each => exact isRead_object each

/-- What is printed is read back, and nothing is left over. -/
theorem readFirst_text {v : Json} (h : Printable room v) (deep : room ≤ depthLimit) :
    readFirst v.text.toList = (v, []) := by
  have within : ([] : List Frame).length + room ≤ depthLimit := by
    rw [List.length_nil]
    omega
  have read : readText (.open [] .value) (v.render ++ []) = readText (deliver [] v) [] :=
    h.isRead (.inl rfl) within trivial
  rw [List.append_nil] at read
  rw [text, String.toList_ofList]
  exact read

theorem first_text {v : Json} (h : Printable room v) (deep : room ≤ depthLimit) :
    first v.text = v := by
  rw [first, readFirst_text h deep]

theorem parse_text {v : Json} (h : Printable room v) (deep : room ≤ depthLimit) :
    parse v.text = v := by
  rw [parse, readFirst_text h deep]

end Registrar.Json
