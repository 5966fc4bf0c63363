import LivepeerTranscode.Shared.JsonString

/-!
# How Go reads JSON bytes into structs and maps

The decoder turns bytes into runes, runes into a document, and the document into a struct
by going through the members in the order they were sent: a field is found by its exact
name or, failing that, by its folded name; a later member overwrites an earlier one; an
unknown name or a value of the wrong kind fails the whole call. A map with string keys is
kept in ascending key order, the order in which the encoder writes it.
-/

namespace JsonText
set_option autoImplicit false

/-! ## Runes -/

/-- The value of a rune after its leading bits, with so many continuation bytes to come. -/
def tailValue : Nat → Nat → List UInt8 → Option Nat
  | 0, value, _ => some value
  | _ + 1, _, [] => none
  | count + 1, value, b :: rest =>
    if 0x80 ≤ b.toNat ∧ b.toNat < 0xC0 then tailValue count (value * 64 + (b.toNat - 0x80)) rest
    else none

/-- A rune of several bytes and how many follow the first; an overlong form, a surrogate
or a missing byte makes the first byte alone U+FFFD. -/
def longRune (count least value : Nat) (rest : List UInt8) : Char × Nat :=
  match tailValue count value rest with
  | some n => if least ≤ n ∧ n.isValidChar then (Char.ofNat n, count) else ('�', 0)
  | none => ('�', 0)

/-- `utf8.DecodeRune` -/
def decodeRune (a : UInt8) (rest : List UInt8) : Char × Nat :=
  if a.toNat < 0x80 then (Char.ofNat a.toNat, 0)
  else if a.toNat < 0xC0 then ('�', 0)
  else if a.toNat < 0xE0 then longRune 1 0x80 (a.toNat - 0xC0) rest
  else if a.toNat < 0xF0 then longRune 2 0x800 (a.toNat - 0xE0) rest
  else if a.toNat < 0xF8 then longRune 3 0x10000 (a.toNat - 0xF0) rest
  else ('�', 0)

/-- The runes of a byte string, after skipping the rest of the current one. -/
def runesFrom : Nat → List UInt8 → List Char
  | _, [] => []
  | skip + 1, _ :: rest => runesFrom skip rest
  | 0, a :: rest => (decodeRune a rest).1 :: runesFrom (decodeRune a rest).2 rest

def runes (bytes : List UInt8) : List Char := runesFrom 0 bytes

theorem toNat_byte {n : Nat} (h : n < 256) : (UInt8.ofNat n).toNat = n := by
  rw [UInt8.toNat_ofNat']
  omega

theorem tailValue_byte {n : Nat} (h : n < 64) (count value : Nat) (rest : List UInt8) :
    tailValue (count + 1) value (UInt8.ofNat (n + 128) :: rest) = tailValue count (value * 64 + n) rest := by
  have hbyte := toNat_byte (show n + 128 < 256 by omega)
  rw [tailValue, hbyte, if_pos (by omega), Nat.add_sub_cancel]

theorem longRune_char {c : Char} {count least value : Nat} {rest : List UInt8}
    (hvalue : tailValue count value rest = some c.toNat) (hleast : least ≤ c.toNat) :
    longRune count least value rest = (c, count) := by
  have hvalid : c.toNat.isValidChar := c.valid
  rw [longRune, hvalue]
  simp only [hleast, hvalid, and_self, if_true, Char.ofNat_toNat]

theorem decodeRune_utf8EncodeChar (c : Char) (rest : List UInt8) :
    ∃ a tail, String.utf8EncodeChar c = a :: tail ∧ decodeRune a (tail ++ rest) = (c, tail.length) ∧
      (tail = [] → a.toNat < 0x80) := by
  have hbound : c.toNat < 0x110000 := by
    have h := toNat_lt_of_not_surrogate c
    omega
  have hval : c.val.toNat = c.toNat := rfl
  unfold String.utf8EncodeChar
  simp only [hval]
  generalize hn : c.toNat = n at hbound
  split
  · have hlead := toNat_byte (show n < 256 by omega)
    refine ⟨_, [], rfl, ?_, ?_⟩
    · rw [decodeRune, hlead, if_pos (by omega), ← hn, Char.ofNat_toNat]
      rfl
    · intro _
      omega
  · split
    · have hlead := toNat_byte (show n / 64 % 32 + 192 < 256 by omega)
      refine ⟨_, _, rfl, ?_, nofun⟩
      rw [decodeRune, hlead, if_neg (by omega), if_neg (by omega), if_pos (by omega)]
      apply longRune_char
      · rw [List.cons_append, tailValue_byte (by omega), tailValue, hn]
        congr 1
        omega
      · omega
    · split
      · have hlead := toNat_byte (show n / 4096 % 16 + 224 < 256 by omega)
        refine ⟨_, _, rfl, ?_, nofun⟩
        rw [decodeRune, hlead, if_neg (by omega), if_neg (by omega), if_neg (by omega), if_pos (by omega)]
        apply longRune_char
        · rw [List.cons_append, tailValue_byte (by omega), List.cons_append, tailValue_byte (by omega),
            tailValue, hn]
          congr 1
          omega
        · omega
      · have hlead := toNat_byte (show n / 262144 % 8 + 240 < 256 by omega)
        refine ⟨_, _, rfl, ?_, nofun⟩
        rw [decodeRune, hlead, if_neg (by omega), if_neg (by omega), if_neg (by omega), if_neg (by omega),
          if_pos (by omega)]
        apply longRune_char
        · rw [List.cons_append, tailValue_byte (by omega), List.cons_append, tailValue_byte (by omega),
            List.cons_append, tailValue_byte (by omega), tailValue, hn]
          congr 1
          omega
        · omega

theorem runesFrom_length (tail rest : List UInt8) : runesFrom tail.length (tail ++ rest) = runesFrom 0 rest := by
  induction tail with
  | nil => rfl
  | cons b tail ih => exact ih

theorem runesFrom_utf8EncodeChar (c : Char) (rest : List UInt8) :
    runesFrom 0 (String.utf8EncodeChar c ++ rest) = c :: runesFrom 0 rest := by
  obtain ⟨a, tail, hencode, hdecode, -⟩ := decodeRune_utf8EncodeChar c rest
  rw [hencode, List.cons_append, runesFrom, hdecode, runesFrom_length]

theorem runes_utf8Bytes (text : List Char) : runes (utf8Bytes text) = text := by
  induction text with
  | nil => rfl
  | cons c text ih =>
    rw [utf8Bytes, List.flatMap_cons, runes, runesFrom_utf8EncodeChar]
    exact congrArg _ ih

theorem utf8Bytes_injective : Function.Injective utf8Bytes :=
  Function.LeftInverse.injective runes_utf8Bytes

/-! ## Maps with string keys -/

section Map
variable {α β : Type}

def insertEntry (key : String) (value : α) : List (String × α) → List (String × α)
  | [] => [(key, value)]
  | (k, v) :: rest =>
    if key < k then (key, value) :: (k, v) :: rest
    else if key = k then (key, value) :: rest
    else (k, v) :: insertEntry key value rest

def Ascending (entries : List (String × α)) : Prop :=
  (entries.map Prod.fst).Pairwise (· < ·)

theorem mem_insertEntry {key : String} {value : α} {entries : List (String × α)} {entry : String × α}
    (h : entry ∈ insertEntry key value entries) : entry = (key, value) ∨ entry ∈ entries := by
  induction entries with
  | nil => exact .inl (List.mem_singleton.mp h)
  | cons head rest ih =>
    obtain ⟨k, v⟩ := head
    rw [insertEntry] at h
    split at h
    · exact List.mem_cons.mp h
    · split at h
      · rcases List.mem_cons.mp h with h | h
        · exact .inl h
        · exact .inr (List.mem_cons_of_mem _ h)
      · rcases List.mem_cons.mp h with h | h
        · exact .inr (h ▸ List.mem_cons_self)
        · rcases ih h with h | h
          · exact .inl h
          · exact .inr (List.mem_cons_of_mem _ h)

theorem ascending_cons {entry : String × α} {entries : List (String × α)} :
    Ascending (entry :: entries) ↔ (∀ other ∈ entries, entry.1 < other.1) ∧ Ascending entries := by
  simp [Ascending]

theorem Ascending.insertEntry {entries : List (String × α)} (h : Ascending entries) (key : String)
    (value : α) : Ascending (insertEntry key value entries) := by
  induction entries with
  | nil => exact ascending_cons.mpr ⟨by simp, h⟩
  | cons head rest ih =>
    obtain ⟨k, v⟩ := head
    obtain ⟨hhead, hrest⟩ := ascending_cons.mp h
    rw [JsonText.insertEntry]
    split
    · rename_i hlt
      refine ascending_cons.mpr ⟨?_, h⟩
      intro other hother
      rcases List.mem_cons.mp hother with rfl | hother
      · exact hlt
      · exact lt_trans hlt (hhead other hother)
    · rename_i hnot
      split
      · rename_i heq
        subst heq
        exact ascending_cons.mpr ⟨hhead, hrest⟩
      · rename_i hne
        refine ascending_cons.mpr ⟨?_, ih hrest⟩
        intro other hother
        rcases mem_insertEntry hother with rfl | hother
        · exact lt_of_le_of_ne (not_lt.mp hnot) (Ne.symm hne)
        · exact hhead other hother

theorem insertEntry_last {key : String} {value : α} {entries : List (String × α)}
    (h : ∀ entry ∈ entries, entry.1 < key) : insertEntry key value entries = entries ++ [(key, value)] := by
  induction entries with
  | nil => rfl
  | cons head rest ih =>
    obtain ⟨k, v⟩ := head
    have hk : k < key := h (k, v) List.mem_cons_self
    rw [insertEntry, if_neg (lt_asymm hk), if_neg (ne_of_gt hk),
      ih fun entry hentry => h entry (List.mem_cons_of_mem _ hentry)]
    rfl

/-- A Go `map[string]α`, in the order in which `encoding/json` writes it. -/
structure StringMap (α : Type) where
  entries : List (String × α)
  ascending : Ascending entries
  deriving DecidableEq

namespace StringMap

def empty : StringMap α := ⟨[], List.Pairwise.nil⟩

def insert (m : StringMap α) (key : String) (value : α) : StringMap α :=
  ⟨insertEntry key value m.entries, m.ascending.insertEntry key value⟩

def get? (m : StringMap α) (key : String) : Option α :=
  (m.entries.find? fun entry => entry.1 == key).map Prod.snd

def keys (m : StringMap α) : List String := m.entries.map Prod.fst

theorem ext {m m' : StringMap α} (h : m.entries = m'.entries) : m = m' := by
  cases m
  cases m'
  cases h
  rfl

theorem get?_insert_ne (m : StringMap α) {key other : String} (h : other ≠ key) (value : α) :
    (m.insert key value).get? other = m.get? other := by
  have hfind : ∀ entries : List (String × α),
      (insertEntry key value entries).find? (fun entry => entry.1 == other) =
        entries.find? (fun entry => entry.1 == other) := by
    intro entries
    have hkey : ¬ ((key, value).1 == other) = true := by simpa using Ne.symm h
    induction entries with
    | nil => exact List.find?_cons_of_neg hkey
    | cons head rest ih =>
      obtain ⟨k, v⟩ := head
      rw [insertEntry]
      split
      · exact List.find?_cons_of_neg hkey
      · split
        · rename_i heq
          subst heq
          simp [Ne.symm h]
        · by_cases hk : k = other
          · rw [List.find?_cons_of_pos (by simpa using hk), List.find?_cons_of_pos (by simpa using hk)]
          · rw [List.find?_cons_of_neg (by simpa using hk), List.find?_cons_of_neg (by simpa using hk), ih]
  rw [get?, get?, insert, hfind]

theorem mem_entries_iff (m : StringMap α) {key : String} {value : α} :
    (key, value) ∈ m.entries ↔ m.get? key = some value := by
  obtain ⟨entries, hascending⟩ := m
  change _ ↔ (entries.find? fun entry => entry.1 == key).map Prod.snd = some value
  induction entries with
  | nil => simp
  | cons head rest ih =>
    obtain ⟨k, v⟩ := head
    obtain ⟨hhead, hrest⟩ := ascending_cons.mp hascending
    by_cases hk : k = key
    · subst hk
      rw [List.find?_cons_of_pos (by simp), List.mem_cons]
      constructor
      · rintro (heq | hmem)
        · cases heq
          rfl
        · exact absurd (hhead _ hmem) (lt_irrefl _)
      · intro heq
        cases heq
        exact .inl rfl
    · rw [List.find?_cons_of_neg (by simpa using hk), List.mem_cons, ← ih hrest]
      constructor
      · rintro (heq | hmem)
        · cases heq
          exact absurd rfl hk
        · exact hmem
      · exact .inr

theorem forall_insert {m : StringMap α} {key : String} {value : α} {p : String × α → Prop}
    (h : ∀ entry ∈ m.entries, p entry) (hnew : p (key, value)) :
    ∀ entry ∈ (m.insert key value).entries, p entry := by
  intro entry hentry
  rcases mem_insertEntry hentry with rfl | hentry
  · exact hnew
  · exact h entry hentry

def insertAll (m : StringMap α) (entries : List (String × α)) : StringMap α :=
  entries.foldl (fun m entry => m.insert entry.1 entry.2) m

theorem insertAll_ascending {m : StringMap α} {entries : List (String × α)}
    (h : Ascending (m.entries ++ entries)) : (m.insertAll entries).entries = m.entries ++ entries := by
  induction entries generalizing m with
  | nil => exact (List.append_nil _).symm
  | cons entry entries ih =>
    have hbefore : ∀ other ∈ m.entries, other.1 < entry.1 := by
      rw [Ascending, List.map_append, List.pairwise_append] at h
      intro other hother
      exact h.2.2 other.1 (List.mem_map_of_mem hother) entry.1 (by simp)
    have hinsert : (m.insert entry.1 entry.2).entries = m.entries ++ [entry] := insertEntry_last hbefore
    have hstep := ih (m := m.insert entry.1 entry.2) (by rwa [hinsert, List.append_assoc])
    rw [hinsert, List.append_assoc] at hstep
    exact hstep

theorem insertAll_entries (m : StringMap α) : empty.insertAll m.entries = m :=
  ext (insertAll_ascending (m := empty) m.ascending)

end StringMap

end Map

/-! ## Documents, structs and maps -/

/-- A document without numbers: no value a struct of strings takes. -/
abbrev GoDocument : Type := Json String Empty

def goReadString (text : List Char) : Option (String × List Char) :=
  (goRead text).map fun (value, rest) => (String.ofList value, rest)

/-- The one JSON value of a body, with nothing but blanks after it. A body with a number
is refused here already: no struct below has a field that could hold one. -/
def goDocument (body : List UInt8) : Option GoDocument :=
  parseDocument goReadString (fun _ => none) (runes body)

theorem goDocument_write (html : Bool) (doc : GoDocument) :
    goDocument (utf8Bytes (write (goQuote html) Empty.elim doc)) = some doc := by
  have hquote : ∀ text : String, ∃ body, goQuote html text = '"' :: body ∧
      ∀ rest, goReadString (body ++ rest) = some (text, rest) := by
    intro text
    refine ⟨text.toList.flatMap (goEscapeChar html) ++ ['"'], rfl, ?_⟩
    intro rest
    rw [List.append_assoc, List.singleton_append, goReadString, goRead_goEscape]
    simp
  have hread := parseDocument_strings hquote doc
  rw [map_eq_self doc fun _ _ => rfl] at hread
  rw [goDocument, runes_utf8Bytes]
  exact hread

/-- `encoding/json` compares names up to Unicode simple folding, which for the letters of
an ASCII name adds U+017F and U+212A to the two cases. -/
def foldChar (c : Char) : Char :=
  if c.toNat = 0x17F then 's' else if c.toNat = 0x212A then 'k' else c.toLower

def foldName (name : String) : List Char := name.toList.map foldChar

section Decode
variable {σ α D : Type}

/-- The fields of a struct, each with how a member's value is decoded into it. -/
abbrev FieldsOf (D σ : Type) : Type := List (String × (σ → D → Option σ))

abbrev Fields (σ : Type) : Type := FieldsOf GoDocument σ

def FieldsOf.named (fields : FieldsOf D σ) (key : String) : Option (σ → D → Option σ) :=
  match fields.find? fun field => field.1 == key with
  | some field => some field.2
  | none => (fields.find? fun field => foldName field.1 == foldName key).map Prod.snd

def decodeMembers (fields : FieldsOf D σ) : σ → List (String × D) → Option σ
  | value, [] => some value
  | value, (key, item) :: rest =>
    match fields.named key with
    | none => none
    | some decode =>
      match decode value item with
      | none => none
      | some value => decodeMembers fields value rest

/-- Decode into a struct; `null` leaves it as it is. -/
def decodeStruct (fields : Fields σ) (value : σ) : GoDocument → Option σ
  | .null => some value
  | .obj members => decodeMembers fields value members
  | _ => none

def decodeText (value : String) : GoDocument → Option String
  | .null => some value
  | .str text => some text
  | _ => none

def decodeEntries (decode : D → Option α) :
    StringMap α → List (String × D) → Option (StringMap α)
  | m, [] => some m
  | m, (key, item) :: rest =>
    match decode item with
    | none => none
    | some value => decodeEntries decode (m.insert key value) rest

/-- Decode into a map; every element starts from its zero value, and `null` makes the map
nil. -/
def decodeMap (decode : GoDocument → Option α) (m : Option (StringMap α)) :
    GoDocument → Option (Option (StringMap α))
  | .null => some none
  | .obj members => (decodeEntries decode (m.getD .empty) members).map some
  | _ => none

theorem decodeMembers_step {fields : FieldsOf D σ} {key : String} {decode : σ → D → Option σ}
    {value value' : σ} {item : D} (hnamed : fields.named key = some decode)
    (hdecode : decode value item = some value') {rest : List (String × D)} {result : Option σ}
    (hrest : decodeMembers fields value' rest = result) :
    decodeMembers fields value ((key, item) :: rest) = result := by
  simp only [decodeMembers, hnamed, hdecode, hrest]

theorem decodeMembers_append {fields : FieldsOf D σ} {value value' : σ} {front : List (String × D)}
    (h : decodeMembers fields value front = some value') {back : List (String × D)} {result : Option σ}
    (hback : decodeMembers fields value' back = result) :
    decodeMembers fields value (front ++ back) = result := by
  induction front generalizing value with
  | nil =>
    cases h
    exact hback
  | cons member front ih =>
    obtain ⟨key, item⟩ := member
    rw [decodeMembers] at h
    rw [List.cons_append, decodeMembers]
    split at h
    · cases h
    · split at h
      · cases h
      · exact ih h

theorem decodeEntries_map {decode : D → Option α} {item : α → D} {entries : List (String × α)}
    (hitem : ∀ entry ∈ entries, decode (item entry.2) = some entry.2) (m : StringMap α) :
    decodeEntries decode m (entries.map fun entry => (entry.1, item entry.2)) =
      some (m.insertAll entries) := by
  induction entries generalizing m with
  | nil => rfl
  | cons entry entries ih =>
    rw [List.map_cons, decodeEntries, hitem entry List.mem_cons_self]
    exact ih (fun other hother => hitem other (List.mem_cons_of_mem _ hother)) (m.insert entry.1 entry.2)

end Decode

end JsonText
