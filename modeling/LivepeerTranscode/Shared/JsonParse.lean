import LivepeerTranscode.Shared.Json

/-!
# Reading JSON text

The parser is given by how it reads a string after its opening quote and how it reads
a number. If a reader takes back every string and number a writer wrote, the parser
takes back every document, so a writer with such a reader is injective.
-/

namespace JsonText
set_option autoImplicit false

section Map
variable {S T N M : Type} (f : S → T) (g : N → M)

mutual
def Json.map : Json S N → Json T M
  | .null => .null
  | .bool value => .bool value
  | .num value => .num (g value)
  | .str value => .str (f value)
  | .arr items => .arr (mapItems items)
  | .obj members => .obj (mapMembers members)

def mapItems : List (Json S N) → List (Json T M)
  | [] => []
  | item :: rest => item.map :: mapItems rest

def mapMembers : List (S × Json S N) → List (T × Json T M)
  | [] => []
  | (key, value) :: rest => (f key, value.map) :: mapMembers rest
end

end Map

section Strings
variable {S N : Type}

mutual
def Json.strings : Json S N → List S
  | .null | .bool _ | .num _ => []
  | .str value => [value]
  | .arr items => itemStrings items
  | .obj members => memberStrings members

def itemStrings : List (Json S N) → List S
  | [] => []
  | item :: rest => item.strings ++ itemStrings rest

def memberStrings : List (S × Json S N) → List S
  | [] => []
  | (key, value) :: rest => key :: value.strings ++ memberStrings rest
end

theorem memberStrings_eq_flatMap (members : List (S × Json S N)) :
    memberStrings members = members.flatMap fun member => member.1 :: member.2.strings := by
  induction members with
  | nil => rfl
  | cons member members ih => rw [memberStrings, ih, List.flatMap_cons]

end Strings

section
variable {S T N M : Type} {f : S → T} {g : N → M}

mutual
theorem strings_map : ∀ doc : Json S N, (doc.map f g).strings = doc.strings.map f
  | .null | .bool _ | .num _ => rfl
  | .str _ => rfl
  | .arr items => itemStrings_map items
  | .obj members => memberStrings_map members

theorem itemStrings_map : ∀ items : List (Json S N),
    itemStrings (mapItems f g items) = (itemStrings items).map f
  | [] => rfl
  | item :: rest => by
    simp only [mapItems, itemStrings, List.map_append]
    rw [strings_map item, itemStrings_map rest]

theorem memberStrings_map : ∀ members : List (S × Json S N),
    memberStrings (mapMembers f g members) = (memberStrings members).map f
  | [] => rfl
  | (key, value) :: rest => by
    simp only [mapMembers, memberStrings, List.map_append, List.map_cons]
    rw [strings_map value, memberStrings_map rest]
end

theorem mapMembers_eq_map (members : List (S × Json S N)) :
    mapMembers f g members = members.map fun member => (f member.1, member.2.map f g) := by
  induction members with
  | nil => rfl
  | cons member members ih => rw [mapMembers, ih, List.map_cons]

mutual
theorem map_map {U K : Type} {f' : T → U} {g' : M → K} : ∀ doc : Json S N,
    (doc.map f g).map f' g' = doc.map (fun s => f' (f s)) (fun n => g' (g n))
  | .null | .bool _ | .num _ | .str _ => rfl
  | .arr items => congrArg Json.arr (mapItems_map items)
  | .obj members => congrArg Json.obj (mapMembers_map members)

theorem mapItems_map {U K : Type} {f' : T → U} {g' : M → K} : ∀ items : List (Json S N),
    mapItems f' g' (mapItems f g items) = mapItems (fun s => f' (f s)) (fun n => g' (g n)) items
  | [] => rfl
  | item :: rest => by
    simp only [mapItems]
    rw [map_map item, mapItems_map rest]

theorem mapMembers_map {U K : Type} {f' : T → U} {g' : M → K} : ∀ members : List (S × Json S N),
    mapMembers f' g' (mapMembers f g members) = mapMembers (fun s => f' (f s)) (fun n => g' (g n)) members
  | [] => rfl
  | (key, value) :: rest => by
    simp only [mapMembers]
    rw [map_map value, mapMembers_map rest]
end

mutual
theorem map_eq_self {f : S → S} : ∀ doc : Json S N, (∀ s ∈ doc.strings, f s = s) →
    doc.map f (fun n => n) = doc
  | .null, _ | .bool _, _ | .num _, _ => rfl
  | .str value, h => congrArg Json.str (h value List.mem_cons_self)
  | .arr items, h => congrArg Json.arr (mapItems_eq_self items h)
  | .obj members, h => congrArg Json.obj (mapMembers_eq_self members h)

theorem mapItems_eq_self {f : S → S} : ∀ items : List (Json S N),
    (∀ s ∈ itemStrings items, f s = s) → mapItems f (fun n => n) items = items
  | [], _ => rfl
  | item :: rest, h => by
    rw [mapItems, map_eq_self item fun s hs => h s (List.mem_append_left _ hs),
      mapItems_eq_self rest fun s hs => h s (List.mem_append_right _ hs)]

theorem mapMembers_eq_self {f : S → S} : ∀ members : List (S × Json S N),
    (∀ s ∈ memberStrings members, f s = s) → mapMembers f (fun n => n) members = members
  | [], _ => rfl
  | (key, value) :: rest, h => by
    rw [mapMembers, h key List.mem_cons_self,
      map_eq_self value fun s hs => h s (List.mem_cons_of_mem _ (List.mem_append_left _ hs)),
      mapMembers_eq_self rest fun s hs => h s (List.mem_cons_of_mem _ (List.mem_append_right _ hs))]
end

variable {quote : T → List Char} {number : M → List Char}

mutual
theorem write_map : ∀ doc : Json S N,
    write quote number (doc.map f g) = write (fun s => quote (f s)) (fun n => number (g n)) doc
  | .null => rfl
  | .bool true => rfl
  | .bool false => rfl
  | .num _ => rfl
  | .str _ => rfl
  | .arr items => by
    simp only [Json.map, write]
    rw [writeItems_map items]
  | .obj members => by
    simp only [Json.map, write]
    rw [writeMembers_map members]

theorem writeItems_map : ∀ items : List (Json S N),
    writeItems quote number (mapItems f g items) =
      writeItems (fun s => quote (f s)) (fun n => number (g n)) items
  | [] => rfl
  | [item] => write_map item
  | item :: next :: rest => by
    have hrest := writeItems_map (next :: rest)
    simp only [mapItems] at hrest
    simp only [mapItems, writeItems]
    rw [write_map item, hrest]

theorem writeMembers_map : ∀ members : List (S × Json S N),
    writeMembers quote number (mapMembers f g members) =
      writeMembers (fun s => quote (f s)) (fun n => number (g n)) members
  | [] => rfl
  | [(key, value)] => by
    simp only [mapMembers, writeMembers]
    rw [write_map value]
  | (key, value) :: (nextKey, next) :: rest => by
    have hrest := writeMembers_map ((nextKey, next) :: rest)
    simp only [mapMembers] at hrest
    simp only [mapMembers, writeMembers]
    rw [write_map value, hrest]
end

end

section
variable {S N : Type} {quote quote' : S → List Char} {number : N → List Char}

mutual
theorem write_congr : ∀ doc : Json S N, (∀ s ∈ doc.strings, quote s = quote' s) →
    write quote number doc = write quote' number doc
  | .null, _ => rfl
  | .bool true, _ => rfl
  | .bool false, _ => rfl
  | .num _, _ => rfl
  | .str value, h => h value List.mem_cons_self
  | .arr items, h => by
    simp only [write]
    rw [writeItems_congr items h]
  | .obj members, h => by
    simp only [write]
    rw [writeMembers_congr members h]

theorem writeItems_congr : ∀ items : List (Json S N), (∀ s ∈ itemStrings items, quote s = quote' s) →
    writeItems quote number items = writeItems quote' number items
  | [], _ => rfl
  | [item], h => write_congr item fun s hs => h s (List.mem_append_left _ hs)
  | item :: next :: rest, h => by
    simp only [writeItems]
    rw [write_congr item fun s hs => h s (List.mem_append_left _ hs),
      writeItems_congr (next :: rest) fun s hs => h s (List.mem_append_right _ hs)]

theorem writeMembers_congr : ∀ members : List (S × Json S N),
    (∀ s ∈ memberStrings members, quote s = quote' s) →
    writeMembers quote number members = writeMembers quote' number members
  | [], _ => rfl
  | [(key, value)], h => by
    simp only [writeMembers]
    rw [h key List.mem_cons_self,
      write_congr value fun s hs => h s (List.mem_cons_of_mem _ (List.mem_append_left _ hs))]
  | (key, value) :: (nextKey, next) :: rest, h => by
    simp only [writeMembers]
    rw [h key List.mem_cons_self,
      write_congr value fun s hs => h s (List.mem_cons_of_mem _ (List.mem_append_left _ hs)),
      writeMembers_congr ((nextKey, next) :: rest) fun s hs =>
        h s (List.mem_cons_of_mem _ (List.mem_append_right _ hs))]
end

mutual
theorem quote_subset_write {s : S} : ∀ doc : Json S N, s ∈ doc.strings → quote s ⊆ write quote number doc
  | .null, h | .bool _, h | .num _, h => by cases h
  | .str value, h => by
    rw [List.mem_singleton.mp h]
    exact List.Subset.refl _
  | .arr items, h => by
    intro c hc
    have hmem := quote_subset_writeItems items h hc
    simp [write, hmem]
  | .obj members, h => by
    intro c hc
    have hmem := quote_subset_writeMembers members h hc
    simp [write, hmem]

theorem quote_subset_writeItems {s : S} : ∀ items : List (Json S N), s ∈ itemStrings items →
    quote s ⊆ writeItems quote number items
  | [], h => by cases h
  | [item], h => quote_subset_write item (by simpa [itemStrings] using h)
  | item :: next :: rest, h => by
    intro c hc
    rcases List.mem_append.mp h with h | h
    · have hmem := quote_subset_write item h hc
      simp [writeItems, hmem]
    · have hmem := quote_subset_writeItems (next :: rest) h hc
      simp [writeItems, hmem]

theorem quote_subset_writeMembers {s : S} : ∀ members : List (S × Json S N), s ∈ memberStrings members →
    quote s ⊆ writeMembers quote number members
  | [], h => by cases h
  | [(key, value)], h => by
    intro c hc
    rcases List.mem_cons.mp h with rfl | h
    · simp [writeMembers, hc]
    · have hmem := quote_subset_write value (by simpa [memberStrings] using h) hc
      simp [writeMembers, hmem]
  | (key, value) :: (nextKey, next) :: rest, h => by
    intro c hc
    rcases List.mem_cons.mp h with rfl | h
    · simp [writeMembers, hc]
    · rcases List.mem_append.mp h with h | h
      · have hmem := quote_subset_write value h hc
        simp [writeMembers, hmem]
      · have hmem := quote_subset_writeMembers ((nextKey, next) :: rest) h hc
        simp [writeMembers, hmem]
end

end

section
set_option linter.unusedSectionVars false
variable {S N : Type} {quote : S → List Char} {number : N → List Char} {P : Char → Prop}
  (hquote : ∀ s, ∀ c ∈ quote s, P c) (hnumber : ∀ n, ∀ c ∈ number n, P c)
  (hascii : ∀ c : Char, 0x20 ≤ c.toNat ∧ c.toNat < 128 → P c)
include hquote hnumber hascii

mutual
/-- What holds of all printable ASCII characters, quoted strings and numbers holds of the whole text. -/
theorem forall_mem_write : ∀ doc : Json S N, ∀ c ∈ write quote number doc, P c
  | .null, c, hc => hascii c (by simp [write] at hc; rcases hc with rfl | rfl | rfl <;> decide)
  | .bool true, c, hc =>
    hascii c (by simp [write] at hc; rcases hc with rfl | rfl | rfl | rfl <;> decide)
  | .bool false, c, hc =>
    hascii c (by simp [write] at hc; rcases hc with rfl | rfl | rfl | rfl | rfl <;> decide)
  | .num value, c, hc => hnumber value c hc
  | .str value, c, hc => hquote value c hc
  | .arr items, c, hc => by
    simp only [write, List.cons_append, List.mem_cons, List.mem_append, List.not_mem_nil, or_false] at hc
    rcases hc with rfl | hc | rfl
    · exact hascii _ (by decide)
    · exact forall_mem_writeItems items c hc
    · exact hascii _ (by decide)
  | .obj members, c, hc => by
    simp only [write, List.cons_append, List.mem_cons, List.mem_append, List.not_mem_nil, or_false] at hc
    rcases hc with rfl | hc | rfl
    · exact hascii _ (by decide)
    · exact forall_mem_writeMembers members c hc
    · exact hascii _ (by decide)

theorem forall_mem_writeItems : ∀ items : List (Json S N), ∀ c ∈ writeItems quote number items, P c
  | [], c, hc => by cases hc
  | [item], c, hc => forall_mem_write item c hc
  | item :: next :: rest, c, hc => by
    simp only [writeItems, List.mem_append, List.mem_cons] at hc
    rcases hc with hc | rfl | hc
    · exact forall_mem_write item c hc
    · exact hascii _ (by decide)
    · exact forall_mem_writeItems (next :: rest) c hc

theorem forall_mem_writeMembers : ∀ members : List (S × Json S N),
    ∀ c ∈ writeMembers quote number members, P c
  | [], c, hc => by cases hc
  | [(key, value)], c, hc => by
    simp only [writeMembers, List.mem_append, List.mem_cons] at hc
    rcases hc with hc | rfl | hc
    · exact hquote key c hc
    · exact hascii _ (by decide)
    · exact forall_mem_write value c hc
  | (key, value) :: (nextKey, next) :: rest, c, hc => by
    simp only [writeMembers, List.cons_append, List.append_assoc, List.mem_append, List.mem_cons] at hc
    rcases hc with hc | rfl | hc | rfl | hc
    · exact hquote key c hc
    · exact hascii _ (by decide)
    · exact forall_mem_write value c hc
    · exact hascii _ (by decide)
    · exact forall_mem_writeMembers ((nextKey, next) :: rest) c hc
end

end

def isBlank (c : Char) : Bool := c == ' ' || c == '\t' || c == '\n' || c == '\r'

def skipBlank (text : List Char) : List Char := text.dropWhile isBlank

section Parse
variable {S N : Type} (readString : List Char → Option (S × List Char))
  (readNumber : List Char → Option (N × List Char))

mutual
/-- A value at the front of a text, and the text after it. -/
def parseValue : Nat → List Char → Option (Json S N × List Char)
  | 0, _ => none
  | fuel + 1, text =>
    match skipBlank text with
    | 'n' :: 'u' :: 'l' :: 'l' :: rest => some (.null, rest)
    | 't' :: 'r' :: 'u' :: 'e' :: rest => some (.bool true, rest)
    | 'f' :: 'a' :: 'l' :: 's' :: 'e' :: rest => some (.bool false, rest)
    | '"' :: rest => (readString rest).map fun (value, rest) => (.str value, rest)
    | '[' :: rest =>
      match skipBlank rest with
      | ']' :: rest => some (.arr [], rest)
      | first => (parseItems fuel first).map fun (items, rest) => (.arr items, rest)
    | '\x7b' :: rest =>
      match skipBlank rest with
      | '\x7d' :: rest => some (.obj [], rest)
      | first => (parseMembers fuel first).map fun (members, rest) => (.obj members, rest)
    | other => (readNumber other).map fun (value, rest) => (.num value, rest)

/-- The items of an array up to its closing bracket; there is at least one. -/
def parseItems : Nat → List Char → Option (List (Json S N) × List Char)
  | 0, _ => none
  | fuel + 1, text =>
    match parseValue fuel text with
    | none => none
    | some (item, rest) =>
      match skipBlank rest with
      | ',' :: rest => (parseItems fuel rest).map fun (items, rest) => (item :: items, rest)
      | ']' :: rest => some ([item], rest)
      | _ => none

def parseMembers : Nat → List Char → Option (List (S × Json S N) × List Char)
  | 0, _ => none
  | fuel + 1, text =>
    match skipBlank text with
    | '"' :: rest =>
      match readString rest with
      | none => none
      | some (key, rest) =>
        match skipBlank rest with
        | ':' :: rest =>
          match parseValue fuel rest with
          | none => none
          | some (value, rest) =>
            match skipBlank rest with
            | ',' :: rest =>
              (parseMembers fuel rest).map fun (members, rest) => ((key, value) :: members, rest)
            | '\x7d' :: rest => some ([(key, value)], rest)
            | _ => none
        | _ => none
    | _ => none
end

/-- A text that is one value; every level of nesting consumes a character. -/
def parseDocument (text : List Char) : Option (Json S N) :=
  match parseValue readString readNumber (2 * text.length + 1) text with
  | some (value, rest) => if skipBlank rest = [] then some value else none
  | none => none

end Parse

/-! ## Round trip -/

def Delimited (rest : List Char) : Prop :=
  ∀ c ∈ rest.head?, isBlank c = true ∨ c = ',' ∨ c = ']' ∨ c = '\x7d'

theorem skipBlank_cons {c : Char} (h : isBlank c = false) (text : List Char) :
    skipBlank (c :: text) = c :: text := by
  simp [skipBlank, h]

section RoundTrip
set_option linter.unusedSectionVars false
variable {S T N M : Type} {quote : S → List Char} {number : N → List Char}
  {readString : List Char → Option (T × List Char)} {readNumber : List Char → Option (M × List Char)}
  {f : S → T} {g : N → M}
  (hquote : ∀ s, ∃ body, quote s = '"' :: body ∧ ∀ rest, readString (body ++ rest) = some (f s, rest))
  (hnumber : ∀ n, (∃ c cs, number n = c :: cs ∧ isBlank c = false ∧ c ≠ ']') ∧
    ∀ rest fuel, Delimited rest →
      parseValue readString readNumber (fuel + 1) (number n ++ rest) = some (.num (g n), rest))

include hquote hnumber

theorem write_head (doc : Json S N) :
    ∃ c cs, write quote number doc = c :: cs ∧ isBlank c = false ∧ c ≠ ']' := by
  cases doc with
  | null => exact ⟨'n', ['u', 'l', 'l'], rfl, rfl, by decide⟩
  | bool value =>
    cases value with
    | true => exact ⟨'t', ['r', 'u', 'e'], rfl, rfl, by decide⟩
    | false => exact ⟨'f', ['a', 'l', 's', 'e'], rfl, rfl, by decide⟩
  | num value => exact (hnumber value).1
  | str value =>
    obtain ⟨body, hbody, -⟩ := hquote value
    exact ⟨'"', body, hbody, rfl, by decide⟩
  | arr items => exact ⟨'[', _, rfl, rfl, by decide⟩
  | obj members => exact ⟨'\x7b', _, rfl, rfl, by decide⟩

theorem writeItems_head (item : Json S N) (items : List (Json S N)) :
    ∃ c cs, writeItems quote number (item :: items) = c :: cs ∧ isBlank c = false ∧ c ≠ ']' := by
  obtain ⟨c, cs, hcs, hblank, hbracket⟩ := write_head hquote hnumber item
  cases items with
  | nil => exact ⟨c, cs, by simp [writeItems, hcs], hblank, hbracket⟩
  | cons next items =>
    refine ⟨c, cs ++ ',' :: writeItems quote number (next :: items), ?_, hblank, hbracket⟩
    simp [writeItems, hcs]

omit hnumber in
theorem writeMembers_head (key : S) (value : Json S N) (members : List (S × Json S N)) :
    ∃ cs, writeMembers quote number ((key, value) :: members) = '"' :: cs := by
  obtain ⟨body, hbody, -⟩ := hquote key
  cases members with
  | nil =>
    refine ⟨body ++ ':' :: write quote number value, ?_⟩
    simp [writeMembers, hbody]
  | cons next members =>
    refine ⟨body ++ ':' :: (write quote number value ++
      ',' :: writeMembers quote number (next :: members)), ?_⟩
    simp [writeMembers, hbody]

mutual
theorem parseValue_write : ∀ (doc : Json S N) (fuel : Nat) (rest : List Char),
    2 * (write quote number doc).length ≤ fuel → Delimited rest →
    parseValue readString readNumber fuel (write quote number doc ++ rest) = some (doc.map f g, rest)
  | .null, fuel, rest, hfuel, _ => by
    obtain ⟨fuel, rfl⟩ : ∃ k, fuel = k + 1 := ⟨fuel - 1, by simp [write] at hfuel; omega⟩
    rfl
  | .bool true, fuel, rest, hfuel, _ => by
    obtain ⟨fuel, rfl⟩ : ∃ k, fuel = k + 1 := ⟨fuel - 1, by simp [write] at hfuel; omega⟩
    rfl
  | .bool false, fuel, rest, hfuel, _ => by
    obtain ⟨fuel, rfl⟩ : ∃ k, fuel = k + 1 := ⟨fuel - 1, by simp [write] at hfuel; omega⟩
    rfl
  | .num value, fuel, rest, hfuel, hrest => by
    obtain ⟨⟨c, cs, hcs, -⟩, hread⟩ := hnumber value
    obtain ⟨fuel, rfl⟩ : ∃ k, fuel = k + 1 := ⟨fuel - 1, by simp [write, hcs] at hfuel; omega⟩
    exact hread rest fuel hrest
  | .str value, fuel, rest, hfuel, _ => by
    obtain ⟨body, hbody, hread⟩ := hquote value
    obtain ⟨fuel, rfl⟩ : ∃ k, fuel = k + 1 := ⟨fuel - 1, by simp [write, hbody] at hfuel; omega⟩
    simp only [write, hbody, List.cons_append, parseValue]
    rw [skipBlank_cons rfl]
    simp [hread, Json.map]
  | .arr [], fuel, rest, hfuel, _ => by
    obtain ⟨fuel, rfl⟩ : ∃ k, fuel = k + 1 := ⟨fuel - 1, by simp [write] at hfuel; omega⟩
    rfl
  | .arr (item :: items), fuel, rest, hfuel, _ => by
    have hlength : (write quote number (.arr (item :: items))).length =
        (writeItems quote number (item :: items)).length + 2 := by
      simp [write]
    obtain ⟨fuel, rfl⟩ : ∃ k, fuel = k + 1 := ⟨fuel - 1, by omega⟩
    have htext : write quote number (.arr (item :: items)) ++ rest =
        '[' :: (writeItems quote number (item :: items) ++ ']' :: rest) := by
      simp [write]
    have hitems := parseItems_write item items fuel rest (by omega)
    obtain ⟨c, cs, hcs, hblank, hbracket⟩ := writeItems_head hquote hnumber item items
    rw [htext]
    simp only [parseValue]
    rw [skipBlank_cons rfl]
    rw [hcs] at hitems ⊢
    simp only [List.cons_append, skipBlank_cons hblank]
    split
    · rename_i heq
      cases heq
      exact absurd rfl hbracket
    · rw [List.cons_append] at hitems
      rw [hitems]
      rfl
  | .obj [], fuel, rest, hfuel, _ => by
    obtain ⟨fuel, rfl⟩ : ∃ k, fuel = k + 1 := ⟨fuel - 1, by simp [write] at hfuel; omega⟩
    rfl
  | .obj ((key, value) :: members), fuel, rest, hfuel, _ => by
    have hlength : (write quote number (.obj ((key, value) :: members))).length =
        (writeMembers quote number ((key, value) :: members)).length + 2 := by
      simp [write]
    obtain ⟨fuel, rfl⟩ : ∃ k, fuel = k + 1 := ⟨fuel - 1, by omega⟩
    have htext : write quote number (.obj ((key, value) :: members)) ++ rest =
        '\x7b' :: (writeMembers quote number ((key, value) :: members) ++ '\x7d' :: rest) := by
      simp [write]
    have hmembers := parseMembers_write key value members fuel rest (by omega)
    obtain ⟨cs, hcs⟩ := writeMembers_head hquote key value members
    rw [htext]
    simp only [parseValue]
    rw [skipBlank_cons rfl]
    rw [hcs, List.cons_append] at hmembers ⊢
    simp only [skipBlank_cons (c := '"') rfl]
    change Option.map _ (parseMembers readString readNumber fuel ('"' :: (cs ++ '\x7d' :: rest))) = _
    rw [hmembers]
    rfl

theorem parseItems_write : ∀ (item : Json S N) (items : List (Json S N)) (fuel : Nat) (rest : List Char),
    2 * (writeItems quote number (item :: items)).length + 1 ≤ fuel →
    parseItems readString readNumber fuel (writeItems quote number (item :: items) ++ ']' :: rest) =
      some (mapItems f g (item :: items), rest)
  | item, [], fuel, rest, hfuel => by
    obtain ⟨fuel, rfl⟩ : ∃ k, fuel = k + 1 := ⟨fuel - 1, by omega⟩
    have hdelimited : Delimited (']' :: rest) := by
      intro c hc
      cases hc
      exact .inr (.inr (.inl rfl))
    have hitem := parseValue_write item fuel (']' :: rest) (by simp [writeItems] at hfuel; omega) hdelimited
    simp only [writeItems, parseItems, hitem]
    rw [skipBlank_cons rfl]
    rfl
  | item, next :: items, fuel, rest, hfuel => by
    obtain ⟨fuel, rfl⟩ : ∃ k, fuel = k + 1 := ⟨fuel - 1, by omega⟩
    have hdelimited : Delimited (',' :: (writeItems quote number (next :: items) ++ ']' :: rest)) := by
      intro c hc
      cases hc
      exact .inr (.inl rfl)
    have hlength : (writeItems quote number (item :: next :: items)).length =
        (write quote number item).length + (writeItems quote number (next :: items)).length + 1 := by
      simp [writeItems]
      omega
    have hitem := parseValue_write item fuel
      (',' :: (writeItems quote number (next :: items) ++ ']' :: rest)) (by omega) hdelimited
    have hitems := parseItems_write next items fuel rest (by omega)
    have htext : writeItems quote number (item :: next :: items) ++ ']' :: rest =
        write quote number item ++ ',' :: (writeItems quote number (next :: items) ++ ']' :: rest) := by
      simp [writeItems]
    rw [htext]
    simp only [parseItems, hitem]
    rw [skipBlank_cons rfl]
    simp only [hitems]
    rfl

theorem parseMembers_write : ∀ (key : S) (value : Json S N) (members : List (S × Json S N))
    (fuel : Nat) (rest : List Char),
    2 * (writeMembers quote number ((key, value) :: members)).length + 1 ≤ fuel →
    parseMembers readString readNumber fuel
        (writeMembers quote number ((key, value) :: members) ++ '\x7d' :: rest) =
      some (mapMembers f g ((key, value) :: members), rest)
  | key, value, [], fuel, rest, hfuel => by
    obtain ⟨body, hbody, hread⟩ := hquote key
    obtain ⟨fuel, rfl⟩ : ∃ k, fuel = k + 1 := ⟨fuel - 1, by omega⟩
    have hdelimited : Delimited ('\x7d' :: rest) := by
      intro c hc
      cases hc
      exact .inr (.inr (.inr rfl))
    have hlength : (writeMembers quote number [(key, value)]).length =
        body.length + (write quote number value).length + 2 := by
      simp [writeMembers, hbody]
      omega
    have hvalue := parseValue_write value fuel ('\x7d' :: rest) (by omega) hdelimited
    have htext : writeMembers quote number [(key, value)] ++ '\x7d' :: rest =
        '"' :: (body ++ ':' :: (write quote number value ++ '\x7d' :: rest)) := by
      simp [writeMembers, hbody]
    rw [htext]
    simp only [parseMembers, skipBlank_cons (c := '"') rfl, hread, skipBlank_cons (c := ':') rfl,
      hvalue, skipBlank_cons (c := '\x7d') rfl]
    rfl
  | key, value, (nextKey, next) :: members, fuel, rest, hfuel => by
    obtain ⟨body, hbody, hread⟩ := hquote key
    obtain ⟨fuel, rfl⟩ : ∃ k, fuel = k + 1 := ⟨fuel - 1, by omega⟩
    have hdelimited : Delimited
        (',' :: (writeMembers quote number ((nextKey, next) :: members) ++ '\x7d' :: rest)) := by
      intro c hc
      cases hc
      exact .inr (.inl rfl)
    have hlength : (writeMembers quote number ((key, value) :: (nextKey, next) :: members)).length =
        body.length + (write quote number value).length +
          (writeMembers quote number ((nextKey, next) :: members)).length + 3 := by
      simp [writeMembers, hbody]
      omega
    have hvalue := parseValue_write value fuel
      (',' :: (writeMembers quote number ((nextKey, next) :: members) ++ '\x7d' :: rest)) (by omega)
      hdelimited
    have hmembers := parseMembers_write nextKey next members fuel rest (by omega)
    have htext : writeMembers quote number ((key, value) :: (nextKey, next) :: members) ++
          '\x7d' :: rest =
        '"' :: (body ++ ':' :: (write quote number value ++
          ',' :: (writeMembers quote number ((nextKey, next) :: members) ++ '\x7d' :: rest))) := by
      simp [writeMembers, hbody]
    rw [htext]
    simp only [parseMembers, skipBlank_cons (c := '"') rfl, hread, skipBlank_cons (c := ':') rfl,
      hvalue, skipBlank_cons (c := ',') rfl, hmembers]
    rfl
end

theorem parseDocument_write (doc : Json S N) :
    parseDocument readString readNumber (write quote number doc) = some (doc.map f g) := by
  have hdelimited : Delimited [] := by
    intro c hc
    cases hc
  have hvalue := parseValue_write hquote hnumber doc
    (2 * (write quote number doc).length + 1) [] (by omega) hdelimited
  rw [List.append_nil] at hvalue
  simp [parseDocument, hvalue, skipBlank]

end RoundTrip

theorem parseDocument_strings {S T : Type} {quote : S → List Char}
    {readString : List Char → Option (T × List Char)} {f : S → T}
    (hquote : ∀ s, ∃ body, quote s = '"' :: body ∧ ∀ rest, readString (body ++ rest) = some (f s, rest))
    (doc : Json S Empty) :
    parseDocument readString (fun _ => none) (write quote Empty.elim doc) =
      some (doc.map f fun n : Empty => n) :=
  parseDocument_write hquote (fun n => n.elim) doc

end JsonText
