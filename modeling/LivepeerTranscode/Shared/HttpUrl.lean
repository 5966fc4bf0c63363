import Mathlib

/-!
# Reading http URLs

How the URL standard reads the text of an absolute http URL: blanks around it and tabs and line
ends in it are dropped, backslashes count as slashes, and dot segments, also percent-encoded
ones, are resolved while the path is read. Schemes, hosts and ports, and which characters of a
path are percent-encoded, are left to a reader.
-/

namespace HttpUrl
set_option autoImplicit false

/-- A URL without an authority has no origin. -/
structure Reader (Origin : Type) where
  origin : List Char → List Char → Option Origin
  encode : Char → List Char
  named : ∀ scheme, origin scheme [] = none

structure Url (Origin : Type) where
  origin : Origin
  path : List (List Char)

def isSlash (c : Char) : Bool := c == '/' || c == '\\'
def isMark (c : Char) : Bool := c == '?' || c == '#'
def isBlank (c : Char) : Bool := decide (c.toNat ≤ 0x20)
def isSolid (c : Char) : Bool := c != '\t' && c != '\n' && c != '\r'

def cleanStart (text : List Char) : List Char := (text.dropWhile isBlank).filter isSolid
def cleanEnd (text : List Char) : List Char := (text.rdropWhile isBlank).filter isSolid
def clean (text : List Char) : List Char := cleanEnd (text.dropWhile isBlank)

structure Parts where
  scheme : List Char
  authority : List Char
  rest : List Char

def inAuthority (c : Char) : Bool := !isSlash c && !isMark c

/-- What follows the scheme of a text and the slashes after it. -/
def afterScheme (text : List Char) : List Char := (text.dropWhile (· != ':')).tail.dropWhile isSlash

def parts (text : List Char) : Parts :=
  ⟨text.takeWhile (· != ':'), (afterScheme text).takeWhile inAuthority, (afterScheme text).dropWhile inAuthority⟩

/-- The segments of a path, up to a query or a fragment. -/
def segments (rest : List Char) : List (List Char) :=
  match rest.takeWhile (!isMark ·) with
  | [] => [[]]
  | path => (path.splitOnP isSlash).tail

def isSingleDot (segment : List Char) : Bool := segment.map Char.toLower ∈ [".", "%2e"].map String.toList

def isDoubleDot (segment : List Char) : Bool :=
  segment.map Char.toLower ∈ ["..", ".%2e", "%2e.", "%2e%2e"].map String.toList

/-! ## Walking a path -/

section
variable {S T : Type} (up : S → S) (down : S → List Char → S)

/-- Go through the segments; a dot segment at the end is followed by an empty one. -/
def walk : S → List (List Char) → S
  | s, [] => s
  | s, [last] =>
    if isDoubleDot last then down (up s) [] else if isSingleDot last then down s [] else down s last
  | s, segment :: next :: rest =>
    walk (if isDoubleDot segment then up s else if isSingleDot segment then s else down s segment) (next :: rest)

variable {up down} {up' : T → T} {down' : T → List Char → T} {sim : S → T → Prop}

theorem walk_simulates (hup : ∀ s t, sim s t → sim (up s) (up' t))
    (hdown : ∀ s t segment, sim s t → sim (down s segment) (down' t segment)) (segments : List (List Char)) :
    ∀ s t, sim s t → sim (walk up down s segments) (walk up' down' t segments) := by
  induction segments with
  | nil => exact fun _ _ h => h
  | cons segment rest ih =>
    intro s t h
    cases rest with
    | nil =>
      unfold walk
      split
      · exact hdown _ _ _ (hup _ _ h)
      · split
        · exact hdown _ _ _ h
        · exact hdown _ _ _ h
    | cons next rest =>
      unfold walk
      apply ih
      split
      · exact hup _ _ h
      · split
        · exact h
        · exact hdown _ _ _ h

end

/-- The path that the segments lead to. -/
def resolve (segments : List (List Char)) : List (List Char) :=
  walk List.dropLast (fun path segment => path ++ [segment]) [] segments

def Reader.read {Origin : Type} (R : Reader Origin) (text : List Char) : Option (Url Origin) :=
  let parts := parts (clean text)
  (R.origin parts.scheme parts.authority).map fun origin =>
    ⟨origin, resolve ((segments parts.rest).map fun segment => segment.flatMap R.encode)⟩

/-! ## Below a directory -/

/-- Where a walk stands: below so many of the names of a directory, and so many segments further. -/
structure Place where
  matched : Nat
  beyond : Nat
  deriving DecidableEq

def Place.up (p : Place) : Place :=
  if p.beyond = 0 then ⟨p.matched - 1, 0⟩ else ⟨p.matched, p.beyond - 1⟩

def Place.down (dir : List (List Char)) (p : Place) (segment : List Char) : Place :=
  if p.beyond = 0 ∧ dir[p.matched]? = some segment then ⟨p.matched + 1, 0⟩ else ⟨p.matched, p.beyond + 1⟩

def placeOf (dir segments : List (List Char)) : Place := walk Place.up (Place.down dir) ⟨0, 0⟩ segments

/-- The walk ends inside the directory. -/
def EndsIn (dir segments : List (List Char)) : Prop :=
  (placeOf dir segments).matched = dir.length ∧ 0 < (placeOf dir segments).beyond

instance (dir segments : List (List Char)) : Decidable (EndsIn dir segments) :=
  inferInstanceAs (Decidable (_ ∧ _))

/-- A path and where it is. -/
structure Stands (dir path : List (List Char)) (p : Place) : Prop where
  length : path.length = p.matched + p.beyond
  common : path.take p.matched = dir.take p.matched
  bound : p.matched ≤ dir.length
  apart : 0 < p.beyond → path[p.matched]? ≠ dir[p.matched]?

section
variable {dir path : List (List Char)} {p : Place}

theorem Stands.up (h : Stands dir path p) : Stands dir path.dropLast p.up := by
  obtain ⟨matched, beyond⟩ := p
  obtain ⟨hlength, hcommon, hbound, hapart⟩ := h
  dsimp only at hlength hcommon hbound hapart
  by_cases hzero : beyond = 0
  · rw [Place.up, if_pos hzero]
    constructor <;> dsimp only
    · rw [List.length_dropLast, hlength, hzero]
      rfl
    · have htake := congrArg (List.take (matched - 1)) hcommon
      rw [List.take_take, List.take_take, Nat.min_eq_left (Nat.sub_le _ _)] at htake
      rw [List.dropLast_eq_take, List.take_take, hlength, hzero, Nat.add_zero, Nat.min_self, htake]
    · omega
    · exact fun hpos => absurd hpos (lt_irrefl 0)
  · rw [Place.up, if_neg hzero]
    constructor <;> dsimp only
    · rw [List.length_dropLast]
      omega
    · rw [List.dropLast_eq_take, List.take_take, Nat.min_eq_left (by omega)]
      exact hcommon
    · exact hbound
    · intro hmore
      rw [List.getElem?_dropLast, if_pos (by omega)]
      exact hapart (by omega)

theorem Stands.down (h : Stands dir path p) (segment : List Char) :
    Stands dir (path ++ [segment]) (p.down dir segment) := by
  obtain ⟨matched, beyond⟩ := p
  obtain ⟨hlength, hcommon, hbound, hapart⟩ := h
  dsimp only at hlength hcommon hbound hapart
  by_cases hnext : beyond = 0 ∧ dir[matched]? = some segment
  · rw [Place.down, if_pos hnext]
    obtain ⟨rfl, hnext⟩ := hnext
    have hlt := (List.getElem?_eq_some_iff.mp hnext).1
    constructor <;> dsimp only
    · simp [hlength]
    · rw [List.take_of_length_le (by simp [hlength]), List.take_add_one, hnext, ← hcommon,
        List.take_of_length_le (by omega)]
      rfl
    · exact hlt
    · exact fun hpos => absurd hpos (lt_irrefl 0)
  · rw [Place.down, if_neg hnext]
    constructor <;> dsimp only
    · simp [hlength, Nat.add_assoc]
    · rw [List.take_append_of_le_length (by omega)]
      exact hcommon
    · exact hbound
    · intro _
      by_cases hzero : beyond = 0
      · rw [List.getElem?_append_right (by omega), hlength, hzero, Nat.add_zero, Nat.sub_self]
        exact fun heq => hnext ⟨hzero, heq.symm⟩
      · rw [List.getElem?_append_left (by omega)]
        exact hapart (by omega)

theorem Stands.below (h : Stands dir path p) :
    (p.matched = dir.length ∧ 0 < p.beyond) ↔ ∃ rest, rest ≠ [] ∧ path = dir ++ rest := by
  constructor
  · rintro ⟨hmatched, hbeyond⟩
    refine ⟨path.drop p.matched, ?_, ?_⟩
    · rw [ne_eq, List.drop_eq_nil_iff, h.length]
      omega
    · have hcommon := h.common
      rw [List.take_of_length_le hmatched.ge] at hcommon
      rw [← hcommon, List.take_append_drop]
  · rintro ⟨rest, hrest, rfl⟩
    have hlength := h.length
    rw [List.length_append] at hlength
    have hpos := List.length_pos_iff.mpr hrest
    have hbound := h.bound
    have hmatched : p.matched = dir.length := by
      by_contra hne
      refine h.apart (by omega) ?_
      rw [List.getElem?_append_left (by omega)]
    exact ⟨hmatched, by omega⟩

/-- The segments lead below the directory exactly when the walk ends in it. -/
theorem resolve_below_iff (segments : List (List Char)) :
    (∃ rest, rest ≠ [] ∧ resolve segments = dir ++ rest) ↔ EndsIn dir segments :=
  have start : Stands dir [] ⟨0, 0⟩ := ⟨rfl, rfl, Nat.zero_le _, fun h => absurd h (lt_irrefl 0)⟩
  (walk_simulates (fun _ _ => Stands.up) (fun _ _ segment h => h.down segment) segments _ _ start).below.symm

end

/-! ## Texts that go on after a slash -/

section
variable {front back : List Char}

theorem clean_append (front back : List Char) :
    clean (front ++ '/' :: back) = cleanStart front ++ '/' :: cleanEnd back := by
  have hstart : (front ++ '/' :: back).dropWhile isBlank = front.dropWhile isBlank ++ '/' :: back := by
    rw [List.dropWhile_append]
    split
    · rename_i hblank
      rw [List.isEmpty_iff.mp hblank]
      rfl
    · rfl
  have hend : ∀ text, (text ++ '/' :: back).rdropWhile isBlank = text ++ '/' :: back.rdropWhile isBlank := by
    intro text
    rw [List.rdropWhile, List.rdropWhile, List.reverse_append, List.reverse_cons, List.append_assoc,
      List.dropWhile_append]
    split
    · rename_i hblank
      rw [List.isEmpty_iff.mp hblank]
      simp [isBlank]
    · simp
  rw [clean, cleanEnd, hstart, hend, List.filter_append, List.filter_cons_of_pos rfl]
  rfl

theorem dropWhile_append_of_ne_nil {p : Char → Bool} (h : front.dropWhile p ≠ []) :
    (front ++ back).dropWhile p = front.dropWhile p ++ back := by
  rw [List.dropWhile_append, if_neg (by simpa using h)]

theorem takeWhile_append_of_ne_nil {p : Char → Bool} (h : front.dropWhile p ≠ []) :
    (front ++ back).takeWhile p = front.takeWhile p := by
  rw [List.takeWhile_append, if_neg]
  intro hall
  have hlength := congrArg List.length (@List.takeWhile_append_dropWhile _ p front)
  rw [List.length_append] at hlength
  exact h (List.length_eq_zero_iff.mp (by omega))

theorem parts_append (h : (parts (front ++ ['/'])).authority ≠ []) :
    parts (front ++ '/' :: back) = { parts front with rest := (parts front).rest ++ '/' :: back } := by
  have hcolon : front.dropWhile (· != ':') ≠ [] := by
    intro hnone
    refine h ?_
    simp only [parts, afterScheme, List.dropWhile_append, hnone]
    rfl
  have htail : ∀ more : List Char, ((front ++ more).dropWhile (· != ':')).tail =
      (front.dropWhile (· != ':')).tail ++ more := by
    intro more
    rw [dropWhile_append_of_ne_nil hcolon, List.tail_append_of_ne_nil hcolon]
  have hnamed : afterScheme front ≠ [] := by
    intro hnone
    refine h ?_
    rw [afterScheme] at hnone
    rw [parts, afterScheme, htail, List.dropWhile_append, hnone]
    rfl
  have hafter : afterScheme (front ++ '/' :: back) = afterScheme front ++ '/' :: back := by
    rw [afterScheme, htail, dropWhile_append_of_ne_nil hnamed]
    rfl
  have hauthority : (afterScheme front ++ '/' :: back).takeWhile inAuthority =
      (afterScheme front).takeWhile inAuthority := by
    rw [List.takeWhile_append]
    split
    · rename_i hall
      rw [List.takeWhile_cons_of_neg (by decide), List.append_nil]
      exact ((List.takeWhile_sublist _).eq_of_length hall).symm
    · rfl
  have hrest : (afterScheme front ++ '/' :: back).dropWhile inAuthority =
      (afterScheme front).dropWhile inAuthority ++ '/' :: back := by
    rw [List.dropWhile_append]
    split
    · rename_i hall
      rw [List.isEmpty_iff.mp hall, List.dropWhile_cons_of_neg (by decide)]
      rfl
    · rfl
  rw [parts, takeWhile_append_of_ne_nil hcolon, hafter, hauthority, hrest]
  rfl

variable {Origin : Type} {R : Reader Origin} {base : Url Origin}

/-- A text that goes on after the slash keeps the origin; its path goes on after what follows the authority. -/
theorem read_append (h : R.read (front ++ ['/']) = some base) (back : List Char) :
    R.read (front ++ '/' :: back) = some ⟨base.origin, resolve ((segments
      ((parts (cleanStart front)).rest ++ '/' :: cleanEnd back)).map fun segment => segment.flatMap R.encode)⟩ := by
  rw [Reader.read, clean_append] at h
  obtain ⟨origin, horigin, rfl⟩ := Option.map_eq_some_iff.mp h
  have hnamed : (parts (cleanStart front ++ ['/'])).authority ≠ [] := by
    intro hnone
    change R.origin _ (parts (cleanStart front ++ ['/'])).authority = _ at horigin
    rw [hnone, R.named] at horigin
    exact nomatch horigin
  change R.origin (parts (cleanStart front ++ ['/'])).scheme (parts (cleanStart front ++ ['/'])).authority = _
    at horigin
  rw [parts_append hnamed] at horigin
  rw [Reader.read, clean_append, parts_append hnamed]
  exact congrArg (Option.map _) horigin

end

end HttpUrl
