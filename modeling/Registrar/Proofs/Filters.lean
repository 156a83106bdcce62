import Registrar.Logging
import Registrar.Proofs.Cutting
import Mathlib.Data.List.Induction
import Mathlib.Data.List.Nodup

/-! At which level a target is heard, read off the text of the filters. The longest path that is given a
level and leads to the target decides. Without one, the program's own paths follow the first level that
stands alone and everything else the first one given to the root; the lines about requests have a
target of their own, which is not among the program's own paths. -/
namespace Registrar.Logging
set_option autoImplicit false

/-! ## Levels by name -/

namespace Level

variable {l : Level} {cs : List Char}

/-- The text is the name of the level, letters of either case. -/
def Named (l : Level) (cs : List Char) : Prop :=
  cs.map Char.toUpper = l.name.toList

theorem ofName?_eq_some_iff : ofName? cs = some l ↔ l.Named cs := by
  unfold Named ofName?
  constructor
  · intro found
    have named := List.find?_some found
    exact of_decide_eq_true named
  · intro named
    rw [named]
    cases l <;> decide

theorem rank_max (a b : Level) : (a.max b).rank = Nat.max a.rank b.rank := by
  unfold max
  by_cases below : a.rank < b.rank
  · rw [if_pos below]
    exact (Nat.max_eq_right (Nat.le_of_lt below)).symm
  · rw [if_neg below]
    exact (Nat.max_eq_left (Nat.le_of_not_lt below)).symm

end Level

/-! ## Parts of the filter text -/

/-- A level alone. -/
def Bare (text : List Char) (l : Level) : Prop :=
  '=' ∉ Text.trim text ∧ l.Named (Text.trim text)

/-- A name and a level around the first equals sign. -/
def Assigns (text : List Char) (name : String) (l : Level) : Prop :=
  ∃ left right, Text.trim text = left ++ '=' :: right ∧ '=' ∉ left ∧
    String.ofList (Text.trim left) = name ∧ l.Named (Text.trim right)

/-- The level is given to a path. -/
def Opts (text : List Char) (path : String) (l : Level) : Prop :=
  Assigns text path l ∧ path ≠ "root" ∧ path ≠ ""

/-- The level that the first text to tell one tells. -/
def First (Tells : List Char → Level → Prop) (texts : List (List Char)) (otherwise l : Level) : Prop :=
  (∃ front text back, texts = front ++ text :: back ∧ Tells text l ∧
      ∀ earlier ∈ front, ∀ k, ¬Tells earlier k) ∨
    (∀ text ∈ texts, ∀ k, ¬Tells text k) ∧ l = otherwise

variable {text left right : List Char} {texts : List (List Char)} {name path target : String}
  {l : Level} {p : Part}

theorem cut_cases (text : List Char) :
    '=' ∉ Text.trim text ∨
      ∃ left right, Text.trim text = left ++ '=' :: right ∧ '=' ∉ left := by
  cases cut : Text.cutAt? ['='] (Text.trim text) with
  | none => exact .inl (Text.cutAt?_eq_none_iff.1 cut)
  | some sides => exact .inr ⟨sides.1, sides.2, Text.cutAt?_eq_some_iff.1 cut⟩

theorem assigns_iff_of_cut (cut : Text.trim text = left ++ '=' :: right) (first : '=' ∉ left) :
    Assigns text name l ↔ String.ofList (Text.trim left) = name ∧ l.Named (Text.trim right) := by
  constructor
  · rintro ⟨left', right', cut', first', named⟩
    have same : some (left, right) = some (left', right') := by
      rw [← Text.cutAt?_eq_some_iff.2 ⟨cut, first⟩, ← Text.cutAt?_eq_some_iff.2 ⟨cut', first'⟩]
    cases same
    exact named
  · intro named
    exact ⟨left, right, cut, first, named⟩

theorem ofText?_of_uncut (uncut : '=' ∉ Text.trim text) :
    Part.ofText? text = (Level.ofName? (Text.trim text)).map .bare := by
  unfold Part.ofText?
  dsimp only
  rw [Text.cutAt?_eq_none_iff.2 uncut]

theorem ofText?_of_cut (cut : Text.trim text = left ++ '=' :: right) (first : '=' ∉ left) :
    Part.ofText? text = (Level.ofName? (Text.trim right)).bind fun l =>
      if String.ofList (Text.trim left) = "root" then some (.root l)
      else if (String.ofList (Text.trim left)).isEmpty then none
      else some (.path (String.ofList (Text.trim left)) l) := by
  unfold Part.ofText?
  dsimp only
  rw [Text.cutAt?_eq_some_iff.2 ⟨cut, first⟩]
  dsimp only
  cases Level.ofName? (Text.trim right) <;> rfl

/-- What the text of a part has to be for the part. -/
def Part.Spells : Part → List Char → Prop
  | .bare l, text => Bare text l
  | .root l, text => Assigns text "root" l
  | .path name l, text => Opts text name l

theorem ofText?_eq_some_iff : Part.ofText? text = some p ↔ p.Spells text := by
  obtain uncut | ⟨left, right, cut, first⟩ := cut_cases text
  · have unassigned (name : String) (l : Level) : ¬Assigns text name l := by
      rintro ⟨left, right, cut, -⟩
      rw [cut] at uncut
      simp at uncut
    rw [ofText?_of_uncut uncut, Option.map_eq_some_iff]
    cases p with
    | bare l => simp [Part.Spells, Bare, uncut, Level.ofName?_eq_some_iff]
    | root l => simp [Part.Spells, unassigned]
    | path name l => simp [Part.Spells, Opts, unassigned]
  · rw [ofText?_of_cut cut first, Option.bind_eq_some_iff]
    simp only [Level.ofName?_eq_some_iff]
    constructor
    · rintro ⟨k, named, made⟩
      have assigned : Assigns text (String.ofList (Text.trim left)) k :=
        (assigns_iff_of_cut cut first).2 ⟨rfl, named⟩
      by_cases root : String.ofList (Text.trim left) = "root"
      · rw [if_pos root] at made
        cases made
        rwa [root] at assigned
      · rw [if_neg root] at made
        by_cases empty : (String.ofList (Text.trim left)).isEmpty = true
        · rw [if_pos empty] at made
          cases made
        · rw [if_neg empty] at made
          cases made
          exact ⟨assigned, root, by simpa using empty⟩
    · intro spelled
      cases p with
      | bare l =>
        refine absurd ?_ spelled.1
        rw [cut]
        exact List.mem_append_right _ List.mem_cons_self
      | root l =>
        obtain ⟨root, named⟩ := (assigns_iff_of_cut cut first).1 spelled
        exact ⟨l, named, if_pos root⟩
      | path name l =>
        obtain ⟨assigned, root, empty⟩ := spelled
        obtain ⟨rfl, named⟩ := (assigns_iff_of_cut cut first).1 assigned
        refine ⟨l, named, ?_⟩
        rw [if_neg root, if_neg (by simpa using empty)]

/-! ## The first part of a kind -/

/-- A search of the parts for those of one kind finds what the first text that spells one tells. -/
theorem first_findSome? (kind : Level → Part) {tell : Part → Option Level}
    (tells : ∀ p l, tell p = some l ↔ p = kind l) (texts : List (List Char)) (otherwise : Level) :
    First (fun text l => (kind l).Spells text) texts otherwise
      (((texts.filterMap Part.ofText?).findSome? tell).getD otherwise) := by
  have some_iff (text : List Char) (l : Level) :
      (Part.ofText? text).bind tell = some l ↔ (kind l).Spells text := by
    rw [← ofText?_eq_some_iff, Option.bind_eq_some_iff]
    constructor
    · rintro ⟨p, said, told⟩
      rwa [← (tells p l).1 told]
    · intro said
      exact ⟨kind l, said, (tells _ l).2 rfl⟩
  have none_iff (text : List Char) :
      (Part.ofText? text).bind tell = none ↔ ∀ l, ¬(kind l).Spells text := by
    rw [Option.eq_none_iff_forall_ne_some]
    exact forall_congr' fun l => not_congr (some_iff text l)
  have through : (texts.filterMap Part.ofText?).findSome? tell =
      texts.findSome? fun text => (Part.ofText? text).bind tell := by
    induction texts with
    | nil => rfl
    | cons text rest ih =>
      cases said : Part.ofText? text with
      | none => simp [said, ih]
      | some p => simp [said, ih, List.findSome?_cons]
  rw [through]
  cases found : texts.findSome? fun text => (Part.ofText? text).bind tell with
  | none =>
    refine .inr ⟨?_, rfl⟩
    intro text ht
    exact (none_iff text).1 (List.findSome?_eq_none_iff.1 found text ht)
  | some l =>
    obtain ⟨front, text, back, whole, told, before⟩ := List.findSome?_eq_some_iff.1 found
    refine .inl ⟨front, text, back, whole, (some_iff text l).1 told, ?_⟩
    intro earlier he
    exact (none_iff earlier).1 (before earlier he)

theorem first_appLevel (filters : String) :
    First Bare (Text.splitAt ',' filters.toList) .info (appLevel filters) := by
  refine first_findSome? .bare ?_ _ _
  intro p l
  cases p <;> simp

theorem first_rootLevel (filters : String) :
    First (Assigns · "root") (Text.splitAt ',' filters.toList) .off (rootLevel filters) := by
  refine first_findSome? .root ?_ _ _
  intro p l
  cases p <;> simp

theorem mem_pathLevels {filters : String} :
    (name, l) ∈ pathLevels filters ↔ ∃ text ∈ Text.splitAt ',' filters.toList, Opts text name l := by
  unfold pathLevels parts
  rw [List.mem_filterMap]
  constructor
  · rintro ⟨p, hp, named⟩
    obtain ⟨text, ht, told⟩ := List.mem_filterMap.1 hp
    cases p <;> cases named
    exact ⟨text, ht, ofText?_eq_some_iff.1 told⟩
  · rintro ⟨text, ht, opts⟩
    refine ⟨.path name l, List.mem_filterMap.2 ⟨text, ht, ?_⟩, rfl⟩
    exact ofText?_eq_some_iff.2 opts

/-! ## Paths that lead to a target -/

/-- A path leads to itself and to everything behind it and a double colon. -/
def Leads (path target : String) : Prop :=
  target = path ∨ ∃ rest, target = path ++ "::" ++ rest

def joined (parts : List (List Char)) : List Char :=
  [':', ':'].intercalate parts

theorem components_ne_nil (cs : List Char) : components cs ≠ [] := by
  fun_induction components cs <;> simp

theorem joined_components (cs : List Char) : joined (components cs) = cs := by
  unfold joined
  fun_induction components cs with
  | case1 => rfl
  | case2 r ih =>
    rw [List.intercalate_cons_of_ne_nil (components_ne_nil r), ih]
    rfl
  | case3 c r _ none _ => exact absurd none (components_ne_nil r)
  | case4 c r _ p ps parts ih =>
    rw [parts] at ih
    cases ps with
    | nil => simpa using ih
    | cons q qs =>
      rw [List.intercalate_cons_cons] at ih ⊢
      simpa using ih

theorem joined_append {front back : List (List Char)} (hf : front ≠ []) (hb : back ≠ []) :
    joined (front ++ back) = joined front ++ ':' :: ':' :: joined back := by
  unfold joined
  induction front with
  | nil => exact absurd rfl hf
  | cons p ps ih =>
    cases ps with
    | nil =>
      rw [List.singleton_append, List.intercalate_cons_of_ne_nil hb]
      simp
    | cons q qs =>
      rw [List.cons_append, List.cons_append, List.intercalate_cons_cons, ← List.cons_append,
        ih (List.cons_ne_nil q qs), List.intercalate_cons_cons]
      simp

theorem components_injective : Function.Injective components := by
  intro cs ds same
  rw [← joined_components cs, same, joined_components]

/-- Double colons behind a run of colons that is complete. -/
theorem colonsPaired_zero_of_two {cs : List Char} (h : colonsPaired 2 cs = true) :
    colonsPaired 0 cs = true := by
  cases cs with
  | nil => rfl
  | cons c r =>
    by_cases colon : c = ':'
    · simp [colonsPaired, colon] at h
    · simpa [colonsPaired, colon] using h

theorem components_append {cs : List Char} (paired : colonsPaired 0 cs = true) (rest : List Char) :
    components (cs ++ ':' :: ':' :: rest) = components cs ++ components rest := by
  fun_induction components cs with
  | case1 => rfl
  | case2 r ih =>
    have inner : colonsPaired 0 r = true :=
      colonsPaired_zero_of_two (by simpa [colonsPaired] using paired)
    rw [List.cons_append, List.cons_append, components, ih inner, List.cons_append]
  | case3 c r _ none _ => exact absurd none (components_ne_nil r)
  | case4 c r single p ps parts ih =>
    -- A single colon would have to be followed by another one.
    have colon : c ≠ ':' := by
      rintro rfl
      cases r with
      | nil => simp [colonsPaired] at paired
      | cons d r' =>
        have other : d ≠ ':' := fun same => single r' rfl (by rw [same])
        simp [colonsPaired, other] at paired
    have inner : colonsPaired 0 r = true := by simpa [colonsPaired, colon] using paired
    rw [List.cons_append, components, ih inner, parts]
    · rfl
    · intro r' same
      exact absurd same colon

/-- A well-formed path leads where its text does. -/
theorem leadsTo_iff (wellFormed : isPath path = true) :
    leadsTo path target = true ↔ Leads path target := by
  have paired : colonsPaired 0 path.toList = true := (Bool.and_eq_true_iff.1 wellFormed).2
  unfold leadsTo
  rw [List.isPrefixOf_iff_prefix]
  constructor
  · rintro ⟨others, whole⟩
    cases others with
    | nil =>
      rw [List.append_nil] at whole
      exact .inl (String.toList_inj.1 (components_injective whole)).symm
    | cons q qs =>
      refine .inr ⟨String.ofList (joined (q :: qs)), ?_⟩
      rw [← String.toList_inj, ← joined_components target.toList, ← whole,
        joined_append (components_ne_nil _) (List.cons_ne_nil q qs), joined_components]
      simp
  · rintro (rfl | ⟨rest, rfl⟩)
    · exact List.prefix_rfl
    · have text : (path ++ "::" ++ rest).toList = path.toList ++ ':' :: ':' :: rest.toList := by simp
      rw [text, components_append paired]
      exact List.prefix_append ..

/-- The longest path that leads to the target is given this level. -/
def Longest (texts : List (List Char)) (target : String) (l : Level) : Prop :=
  ∃ text ∈ texts, ∃ path, Opts text path l ∧ Leads path target ∧
    ∀ text' ∈ texts, ∀ path' l', Opts text' path' l' → Leads path' target →
      (path' = path ∧ l' = l) ∨ path'.length < path.length

def depth (path : String) : Nat :=
  (components path.toList).length

theorem depth_pos (path : String) : 0 < depth path :=
  List.length_pos_of_ne_nil (components_ne_nil _)

/-- Of two paths that lead to one target the deeper one has the longer text. -/
theorem length_lt_of_leadsTo {path' : String} (h : leadsTo path target = true)
    (h' : leadsTo path' target = true) (deep : depth path ≤ depth path') :
    path = path' ∨ path.length < path'.length := by
  obtain ⟨others, whole⟩ := List.prefix_of_prefix_length_le (List.isPrefixOf_iff_prefix.1 h)
    (List.isPrefixOf_iff_prefix.1 h') deep
  cases others with
  | nil =>
    rw [List.append_nil] at whole
    exact .inl (String.toList_inj.1 (components_injective whole))
  | cons q qs =>
    refine .inr ?_
    rw [← String.length_toList, ← String.length_toList, ← joined_components path'.toList, ← whole,
      joined_append (components_ne_nil _) (List.cons_ne_nil q qs), joined_components,
      List.length_append]
    simp

/-! ## The logger that decides -/

namespace Loggers

theorem foldl_longer_cases (ns : List (String × Level)) :
    (ns = [] ∧ ns.foldl longer none = none) ∨
      ∃ n ∈ ns, ns.foldl longer none = some n ∧ ∀ n' ∈ ns, depth n'.1 ≤ depth n.1 := by
  induction ns using List.reverseRecOn with
  | nil => exact .inl ⟨rfl, rfl⟩
  | append_singleton ns last ih =>
    refine .inr ?_
    rw [List.foldl_append]
    obtain ⟨rfl, before⟩ | ⟨n, hn, before, deepest⟩ := ih
    · refine ⟨last, by simp, rfl, ?_⟩
      simp
    · rw [before, List.foldl_cons, List.foldl_nil]
      unfold longer
      dsimp only
      change ∃ m ∈ ns ++ [last], (if depth n.1 < depth last.1 then some last else some n) = some m ∧ _
      by_cases deeper : depth n.1 < depth last.1
      · refine ⟨last, by simp, if_pos deeper, ?_⟩
        intro n' hn'
        obtain hn' | hn' := List.mem_append.1 hn'
        · exact Nat.le_of_lt (Nat.lt_of_le_of_lt (deepest n' hn') deeper)
        · obtain rfl := List.mem_singleton.1 hn'
          exact Nat.le_refl _
      · refine ⟨n, List.mem_append_left _ hn, if_neg deeper, ?_⟩
        intro n' hn'
        obtain hn' | hn' := List.mem_append.1 hn'
        · exact deepest n' hn'
        · obtain rfl := List.mem_singleton.1 hn'
          exact Nat.le_of_not_lt deeper

theorem level_cases (l : Loggers) (target : String) :
    ((∀ n ∈ l.named, ¬leadsTo n.1 target = true) ∧ l.level target = l.root) ∨
      ∃ n ∈ l.named, leadsTo n.1 target = true ∧ l.level target = n.2 ∧
        ∀ n' ∈ l.named, leadsTo n'.1 target = true → depth n'.1 ≤ depth n.1 := by
  unfold level
  obtain ⟨none, found⟩ | ⟨n, hn, found, deepest⟩ :=
    foldl_longer_cases (l.named.filter fun n => leadsTo n.1 target)
  · refine .inl ⟨List.filter_eq_nil_iff.1 none, ?_⟩
    rw [found]
  · obtain ⟨hn, leads⟩ := List.mem_filter.1 hn
    refine .inr ⟨n, hn, leads, by rw [found], ?_⟩
    intro n' hn' leads'
    exact deepest n' (List.mem_filter.2 ⟨hn', leads'⟩)

theorem distinct_iff_nodup {names : List String} : distinct names = true ↔ names.Nodup := by
  induction names with
  | nil => simp [distinct]
  | cons name rest ih => simp [distinct, ih]

theorem foldl_max_le (ns : List (String × Level)) (m : Level) :
    m.rank ≤ (ns.foldl (fun m n => m.max n.2) m).rank ∧
      ∀ n ∈ ns, n.2.rank ≤ (ns.foldl (fun m n => m.max n.2) m).rank := by
  induction ns generalizing m with
  | nil => simp
  | cons n rest ih =>
    obtain ⟨first, others⟩ := ih (m.max n.2)
    rw [Level.rank_max] at first
    refine ⟨Nat.le_trans (Nat.le_max_left ..) first, ?_⟩
    intro n' hn'
    obtain rfl | hn' := List.mem_cons.1 hn'
    · exact Nat.le_trans (Nat.le_max_right ..) first
    · exact others n' hn'

/-- No logger is held back by the highest level of all. -/
theorem level_passes_maxLevel (l : Loggers) (target : String) :
    (l.level target).passes l.maxLevel = true := by
  refine decide_eq_true ?_
  obtain ⟨root, named⟩ := foldl_max_le l.named l.root
  obtain ⟨-, same⟩ | ⟨n, hn, -, same, -⟩ := l.level_cases target
  · rw [same]
    exact root
  · rw [same]
    exact named n hn

/-! ## What the filters ask for -/

variable {filters : String} {loggers : Loggers}

theorem ofFilters_eq_ok_iff :
    ofFilters filters = .ok loggers ↔
      loggers = asked filters ∧ (∀ n ∈ (asked filters).named, isPath n.1 = true) ∧
        ((asked filters).named.map Prod.fst).Nodup := by
  unfold ofFilters
  dsimp only
  have valid : (asked filters).isValid = true ↔
      (∀ n ∈ (asked filters).named, isPath n.1 = true) ∧
        ((asked filters).named.map Prod.fst).Nodup := by
    simp [isValid, distinct_iff_nodup]
  rw [← valid]
  by_cases h : (asked filters).isValid = true
  · simp [h, eq_comm]
  · simp [h]

theorem mem_asked {path : String} {l : Level} :
    (path, l) ∈ (asked filters).named ↔
      (path ∈ ownPaths ∧ (∀ k, (path, k) ∉ pathLevels filters) ∧ l = appLevel filters) ∨
        (path, l) ∈ pathLevels filters := by
  simp only [asked, List.mem_append, List.mem_map, List.mem_filter]
  refine or_congr_left ?_
  constructor
  · rintro ⟨own, ⟨ho, free⟩, same⟩
    cases same
    refine ⟨ho, ?_, rfl⟩
    intro k hk
    have taken : (pathLevels filters).any (fun n => decide (n.1 = path)) = true :=
      List.any_eq_true.2 ⟨_, hk, decide_eq_true rfl⟩
    rw [taken] at free
    cases free
  · rintro ⟨ho, free, rfl⟩
    refine ⟨path, ⟨ho, ?_⟩, rfl⟩
    rw [Bool.not_eq_true', List.any_eq_false]
    intro n hn same
    have name : n.1 = path := of_decide_eq_true same
    exact free n.2 (name ▸ hn)

theorem depth_of_own {path : String} (h : path ∈ ownPaths) : depth path = 1 := by
  revert path
  decide

theorem isPath_of_own {path : String} (h : path ∈ ownPaths) : isPath path = true := by
  revert path
  decide

theorem requestTarget_not_own {path : String} (h : path ∈ ownPaths) : ¬Leads path requestTarget := by
  rw [← leadsTo_iff (isPath_of_own h)]
  revert path
  decide

/-- Where a path that is given a level leads, no path of the program's own decides. -/
theorem deepest_of_path {path : String} {l : Level} {n : String × Level}
    (given : (path, l) ∈ pathLevels filters) (leads : leadsTo path target = true)
    (hn : n ∈ (asked filters).named) (leads' : leadsTo n.1 target = true)
    (deep : depth path ≤ depth n.1) : n ∈ pathLevels filters := by
  obtain ⟨own, free, -⟩ | given' := mem_asked.1 hn
  · exfalso
    have shallow := depth_of_own own
    have pos := depth_pos path
    obtain rfl | shorter := length_lt_of_leadsTo leads leads' deep
    · exact free l given
    · obtain same | longer := length_lt_of_leadsTo leads' leads (by omega)
      · exact free l (same ▸ given)
      · omega
  · exact given'

/-- The longest path that is given a level and leads to a target decides at which level the target is
heard. Without one the target is heard at the first level that stands alone if a path of the program's
own leads to it, and else at the first level given to the root; this is where the target of the lines
about requests belongs. -/
theorem level_of_filters {filters : String} {loggers : Loggers}
    (accepted : ofFilters filters = .ok loggers) (target : String) :
    let texts := Text.splitAt ',' filters.toList
    (Longest texts target (loggers.level target) ∨
      (∀ text ∈ texts, ∀ path l, Opts text path l → ¬Leads path target) ∧
        ((∃ path ∈ ownPaths, Leads path target) →
          First Bare texts .info (loggers.level target)) ∧
        ((∀ path ∈ ownPaths, ¬Leads path target) →
          First (Assigns · "root") texts .off (loggers.level target))) ∧
      (loggers.level target).passes loggers.maxLevel = true ∧
      ∀ path ∈ ownPaths, ¬Leads path requestTarget := by
  intro texts
  obtain ⟨rfl, wellFormed, distinct⟩ := ofFilters_eq_ok_iff.1 accepted
  refine ⟨?_, level_passes_maxLevel _ target, fun path own => requestTarget_not_own own⟩
  have leads_iff {path : String} {l : Level} (hn : (path, l) ∈ (asked filters).named) :
      leadsTo path target = true ↔ Leads path target := leadsTo_iff (wellFormed _ hn)
  by_cases given : ∃ path l, (path, l) ∈ pathLevels filters ∧ leadsTo path target = true
  · -- The deepest logger that leads to the target is one of those that the filters name: the
    -- program's own paths have one part each, and a path of one part that leads here is the same.
    obtain ⟨path, l, hp, leads⟩ := given
    obtain ⟨none, -⟩ | ⟨n, hn, leads', level, deepest⟩ := (asked filters).level_cases target
    · exact absurd leads (none _ (mem_asked.2 (.inr hp)))
    · have hn' : (n.1, n.2) ∈ pathLevels filters :=
        deepest_of_path hp leads hn leads' (deepest _ (mem_asked.2 (.inr hp)) leads)
      obtain ⟨text, ht, opts⟩ := mem_pathLevels.1 hn'
      rw [level]
      refine .inl ⟨text, ht, n.1, opts, (leads_iff hn).1 leads', ?_⟩
      intro text' ht' path' l' opts' leads''
      have named : (path', l') ∈ (asked filters).named :=
        mem_asked.2 (.inr (mem_pathLevels.2 ⟨text', ht', opts'⟩))
      have leads'' : leadsTo path' target = true := (leads_iff named).2 leads''
      obtain same | shorter := length_lt_of_leadsTo leads'' leads' (deepest _ named leads'')
      · have only : (path', l') = n := List.inj_on_of_nodup_map distinct named hn same
        exact .inl ⟨same, congrArg Prod.snd only⟩
      · exact .inr shorter
  · have own_of_leads {n : String × Level} (hn : n ∈ (asked filters).named)
        (leads : leadsTo n.1 target = true) : n.1 ∈ ownPaths ∧ n.2 = appLevel filters := by
      obtain ⟨own, -, level⟩ | named := mem_asked.1 hn
      · exact ⟨own, level⟩
      · exact absurd ⟨n.1, n.2, named, leads⟩ given
    refine .inr ⟨?none, ?own, ?other⟩
    case none =>
      intro text ht path l opts leads
      have named : (path, l) ∈ pathLevels filters := mem_pathLevels.2 ⟨text, ht, opts⟩
      exact given ⟨path, l, named, (leads_iff (mem_asked.2 (.inr named))).2 leads⟩
    case own =>
      rintro ⟨path, own, leads⟩
      have leads : leadsTo path target = true := (leadsTo_iff (isPath_of_own own)).2 leads
      have named : (path, appLevel filters) ∈ (asked filters).named :=
        mem_asked.2 (.inl ⟨own, fun k hk => given ⟨path, k, hk, leads⟩, rfl⟩)
      obtain ⟨none, -⟩ | ⟨n, hn, leads', level, -⟩ := (asked filters).level_cases target
      · exact absurd leads (none _ named)
      · rw [level, (own_of_leads hn leads').2]
        exact first_appLevel filters
    case other =>
      intro foreign
      obtain ⟨-, level⟩ | ⟨n, hn, leads', -, -⟩ := (asked filters).level_cases target
      · rw [level]
        exact first_rootLevel filters
      · exact absurd ((leads_iff hn).1 leads') (foreign n.1 (own_of_leads hn leads').1)

theorem level_of_filters_deeper :
    let filters := " warn,regsync_core=debug, regsync_core::client = trace ,root=error"
    ∃ loggers, ofFilters filters = .ok loggers ∧
      loggers.level "regsync_core::client::rpc" = .trace ∧
      (loggers.level "regsync_core::client::rpc").passes loggers.maxLevel = true := by
  intro filters
  let loggers : Loggers :=
    ⟨.error, [("regsync_service", .warn), ("regsync_core", .debug), ("regsync_core::client", .trace)]⟩
  have accepted : ofFilters filters = .ok loggers := by decide
  obtain ⟨-, passes, -⟩ := level_of_filters accepted "regsync_core::client::rpc"
  exact ⟨loggers, accepted, by decide, passes⟩

/-- With a level for the program's own lines and none for the root, an error about a request is not
heard. -/
theorem requestTarget_unheard :
    ∃ loggers, ofFilters "info" = .ok loggers ∧
      (∀ text ∈ Text.splitAt ',' "info".toList, ∀ path l, ¬Opts text path l) ∧
      loggers.level requestTarget = .off ∧
      ¬First Bare (Text.splitAt ',' "info".toList) .info (loggers.level requestTarget) ∧
      loggers.heard [⟨requestTarget, .error, "request failed"⟩] = [] := by
  have unheard : level ⟨.off, [("regsync_core", .info), ("regsync_service", .info)]⟩ requestTarget =
      .off := by decide
  have alone {text : List Char} (ht : text ∈ Text.splitAt ',' "info".toList) :
      text = "info".toList := by
    have only : Text.splitAt ',' "info".toList = ["info".toList] := by decide
    rw [only] at ht
    exact List.mem_singleton.1 ht
  refine ⟨⟨.off, [("regsync_core", .info), ("regsync_service", .info)]⟩, by decide, ?paths, unheard,
    ?bare, by decide⟩
  case paths =>
    intro text ht path l opts
    have none : pathLevels "info" = [] := by decide
    have named : (path, l) ∈ pathLevels "info" := mem_pathLevels.2 ⟨text, ht, opts⟩
    rw [none] at named
    cases named
  case bare =>
    rw [unheard]
    rintro (⟨front, text, back, whole, ⟨-, named⟩, -⟩ | ⟨-, same⟩)
    · have ht : text ∈ Text.splitAt ',' "info".toList := by
        rw [whole]
        exact List.mem_append_right _ List.mem_cons_self
      rw [alone ht, ← Level.ofName?_eq_some_iff] at named
      revert named
      decide
    · cases same

end Loggers

end Registrar.Logging
