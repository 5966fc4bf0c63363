import LivepeerTranscode.Shared.GoJson

/-!
# JSON text kept as it is

A raw document holds every string and every number as the literal that stood in the text.
`encoding/json` keeps a `RawMessage` so; when it writes one, it scans the text, drops the
blanks between the tokens and escapes what is special in HTML. A text it has written itself
has nothing left to drop or to escape, so it is written back as it was.
-/

namespace JsonText
set_option autoImplicit false

abbrev RawDocument : Type := Json (List Char) (List Char)

/-! ## Scanning -/

def rawRead : List Char → Option (List Char × List Char)
  | [] => none
  | '"' :: rest => some ([], rest)
  | '\\' :: 'u' :: a :: b :: c :: d :: rest =>
    match hex4 a b c d with
    | some _ => before ['\\', 'u', a, b, c, d] (rawRead rest)
    | none => none
  | '\\' :: e :: rest =>
    match shortEscape e with
    | some _ => before ['\\', e] (rawRead rest)
    | none => none
  | c :: rest => if c.toNat < 0x20 then none else before [c] (rawRead rest)

def rawDigits (text : List Char) : Option (List Char × List Char) :=
  match text.takeWhile Char.isDigit with
  | [] => none
  | digits => some (digits, text.dropWhile Char.isDigit)

def rawInteger : List Char → Option (List Char × List Char)
  | '0' :: rest => some (['0'], rest)
  | text => rawDigits text

def rawFraction : List Char → Option (List Char × List Char)
  | '.' :: rest => (rawDigits rest).map fun (digits, rest) => ('.' :: digits, rest)
  | text => some ([], text)

def rawSign : List Char → List Char × List Char
  | '+' :: rest => (['+'], rest)
  | '-' :: rest => (['-'], rest)
  | text => ([], text)

def rawExponent : List Char → Option (List Char × List Char)
  | [] => some ([], [])
  | e :: rest =>
    if e = 'e' ∨ e = 'E' then
      (rawDigits (rawSign rest).2).map fun (digits, tail) => (e :: (rawSign rest).1 ++ digits, tail)
    else some ([], e :: rest)

def rawMagnitude (text : List Char) : Option (List Char × List Char) := do
  let (integer, text) ← rawInteger text
  let (fraction, text) ← rawFraction text
  let (exponent, text) ← rawExponent text
  some (integer ++ fraction ++ exponent, text)

def rawNumber : List Char → Option (List Char × List Char)
  | '-' :: rest => before ['-'] (rawMagnitude rest)
  | text => rawMagnitude text

def rawDocument (text : List Char) : Option RawDocument := parseDocument rawRead rawNumber text

def rawQuote (literal : List Char) : List Char := '"' :: literal ++ ['"']

def rawText (document : RawDocument) : List Char := write rawQuote id document

/-- What `Compact` escapes in a literal. -/
def htmlEscape (c : Char) : List Char :=
  if c.toNat == 0x2028 || c.toNat == 0x2029 || c.toNat == 0x3C || c.toNat == 0x3E || c.toNat == 0x26 then
    unicodeEscape c.toNat
  else [c]

def compact (document : RawDocument) : RawDocument :=
  document.map (fun literal => literal.flatMap htmlEscape) id

/-! ## What a Go encoder writes -/

structure NumberLiteral where
  text : List Char
  scans : ∀ rest, Delimited rest → rawNumber (text ++ rest) = some (text, rest)

abbrev GoValue : Type := Json String NumberLiteral

def goLiteral (s : String) : List Char := s.toList.flatMap (goEscapeChar true)

/-- `json.Marshal` -/
def marshal (value : GoValue) : List Char := write (goQuote true) NumberLiteral.text value

def GoValue.raw (value : GoValue) : RawDocument := value.map goLiteral NumberLiteral.text

theorem marshal_eq_rawText (value : GoValue) : marshal value = rawText (GoValue.raw value) := by
  rw [GoValue.raw, rawText, write_map]
  rfl

theorem rawRead_unicodeEscape {n : Nat} (h : n < 65536) (rest : List Char) :
    rawRead (unicodeEscape n ++ rest) = before (unicodeEscape n) (rawRead rest) := by
  simp only [unicodeEscape, List.cons_append, List.nil_append, rawRead, hex4_unicodeEscape h]

theorem rawRead_escapeChar (c : Char) (rest : List Char) :
    rawRead (escapeChar c ++ rest) = before (escapeChar c) (rawRead rest) := by
  rcases escapeChar_cases c with ⟨e, hshort, hu, he⟩ | ⟨hsmall, he⟩ | ⟨hbig, hquote, hslash, he⟩
  · rw [he, List.cons_append, List.cons_append, List.nil_append, rawRead]
    · rw [hshort]
    · intro a b c d rest h
      exact absurd h hu
  · rw [he]
    exact rawRead_unicodeEscape (by omega) rest
  · rw [he, List.cons_append, List.nil_append, rawRead]
    · rw [if_neg (Nat.not_lt.mpr hbig)]
    · exact hquote
    · intro a b c d rest h
      exact absurd h hslash
    · intro e rest h
      exact absurd h hslash

theorem rawRead_goEscapeChar (c : Char) (rest : List Char) :
    rawRead (goEscapeChar true c ++ rest) = before (goEscapeChar true c) (rawRead rest) := by
  rcases goEscapeChar_cases true c with ⟨hsmall, he⟩ | ⟨-, -, he⟩
  · rw [he]
    exact rawRead_unicodeEscape (by omega) rest
  · rw [he]
    exact rawRead_escapeChar c rest

theorem rawRead_goLiteral (s : String) (rest : List Char) :
    rawRead (goLiteral s ++ '"' :: rest) = some (goLiteral s, rest) := by
  unfold goLiteral
  induction s.toList with
  | nil => rfl
  | cons c text ih =>
    rw [List.flatMap_cons, List.append_assoc, rawRead_goEscapeChar, ih]
    rfl

def unquote (literal : List Char) : Option String :=
  match goRead (literal ++ ['"']) with
  | some (text, []) => some (String.ofList text)
  | _ => none

theorem unquote_goLiteral (s : String) : unquote (goLiteral s) = some s := by
  have hread : goRead (goLiteral s ++ ['"']) = some (s.toList, []) := goRead_goEscape true s.toList []
  simp only [unquote, hread, String.ofList_toList]

theorem htmlEscape_unicodeEscape (n : Nat) : (unicodeEscape n).flatMap htmlEscape = unicodeEscape n := by
  have hdigit : ∀ k, htmlEscape (Nat.digitChar (k % 16)) = [Nat.digitChar (k % 16)] := by
    intro k
    have hall : ∀ d : Fin 16, htmlEscape (Nat.digitChar d) = [Nat.digitChar d] := by decide
    exact hall ⟨k % 16, Nat.mod_lt k (by decide)⟩
  have hslash : htmlEscape '\\' = ['\\'] := rfl
  have hu : htmlEscape 'u' = ['u'] := rfl
  simp only [unicodeEscape, List.flatMap_cons, List.flatMap_nil, hdigit, hslash, hu, List.singleton_append]

theorem htmlEscape_goEscapeChar (c : Char) :
    (goEscapeChar true c).flatMap htmlEscape = goEscapeChar true c := by
  rcases goEscapeChar_cases true c with ⟨-, he⟩ | ⟨hseparator, hhtml, he⟩
  · rw [he]
    exact htmlEscape_unicodeEscape _
  · rw [he]
    rcases escapeChar_cases c with ⟨e, hshort, -, he⟩ | ⟨-, he⟩ | ⟨-, -, -, he⟩
    · have hescape : htmlEscape e = [e] := by
        unfold shortEscape at hshort
        split at hshort <;> first | rfl | cases hshort
      have hslash : htmlEscape '\\' = ['\\'] := rfl
      simp only [he, List.flatMap_cons, List.flatMap_nil, hescape, hslash, List.singleton_append]
    · rw [he]
      exact htmlEscape_unicodeEscape _
    · rw [he, List.flatMap_singleton, htmlEscape, if_neg]
      simp only [Bool.or_eq_true, beq_iff_eq, true_and] at hhtml ⊢
      omega

theorem htmlEscape_goLiteral (s : String) : (goLiteral s).flatMap htmlEscape = goLiteral s := by
  unfold goLiteral
  induction s.toList with
  | nil => rfl
  | cons c text ih => rw [List.flatMap_cons, List.flatMap_append, ih, htmlEscape_goEscapeChar]

theorem compact_raw (value : GoValue) : compact (GoValue.raw value) = GoValue.raw value := by
  have hliteral : (fun s => (goLiteral s).flatMap htmlEscape) = goLiteral := funext htmlEscape_goLiteral
  rw [compact, GoValue.raw, map_map]
  exact congrArg (fun f => Json.map f NumberLiteral.text value) hliteral

theorem rawNumber_head {text rest literal : List Char} (h : rawNumber text = some (literal, rest)) :
    ∃ c tail, text = c :: tail ∧ (c = '-' ∨ c.isDigit = true) := by
  have hmagnitude : ∀ text, rawMagnitude text ≠ none → ∃ c tail, text = c :: tail ∧ c.isDigit = true := by
    intro text hsome
    cases text with
    | nil => exact absurd rfl hsome
    | cons c tail =>
      refine ⟨c, tail, rfl, ?_⟩
      by_contra hdigit
      have hzero : c ≠ '0' := by
        rintro rfl
        exact hdigit rfl
      refine hsome ?_
      have hinteger : rawInteger (c :: tail) = none := by
        rw [rawInteger]
        · rw [rawDigits, List.takeWhile_cons_of_neg hdigit]
        · intro rest heq
          exact hzero (List.cons.inj heq).1
      rw [rawMagnitude, hinteger]
      rfl
  unfold rawNumber at h
  split at h
  · exact ⟨_, _, rfl, .inl rfl⟩
  · obtain ⟨c, tail, rfl, hdigit⟩ := hmagnitude text (by simp [h])
    exact ⟨c, tail, rfl, .inr hdigit⟩

theorem parseValue_number {S N : Type} {readString : List Char → Option (S × List Char)}
    {readNumber : List Char → Option (N × List Char)} {c : Char} {tail rest : List Char} {value : N}
    (hhead : c = '-' ∨ c.isDigit = true) (h : readNumber (c :: tail) = some (value, rest)) (fuel : Nat) :
    parseValue readString readNumber (fuel + 1) (c :: tail) = some (.num value, rest) := by
  have hne : ∀ d : Char, d ≠ '-' → d.isDigit = false → c ≠ d := by
    rintro d hminus hdigit rfl
    rcases hhead with rfl | hd
    · exact hminus rfl
    · rw [hdigit] at hd
      cases hd
  have hblank : isBlank c = false := by
    simp only [isBlank, Bool.or_eq_false_iff, beq_eq_false_iff_ne]
    exact ⟨⟨⟨hne ' ' (by decide) rfl, hne '\t' (by decide) rfl⟩, hne '\n' (by decide) rfl⟩,
      hne '\r' (by decide) rfl⟩
  rw [parseValue, skipBlank_cons hblank]
  split
  · rename_i heq
    exact absurd (List.cons.inj heq).1 (hne 'n' (by decide) rfl)
  · rename_i heq
    exact absurd (List.cons.inj heq).1 (hne 't' (by decide) rfl)
  · rename_i heq
    exact absurd (List.cons.inj heq).1 (hne 'f' (by decide) rfl)
  · rename_i heq
    exact absurd (List.cons.inj heq).1 (hne '"' (by decide) rfl)
  · rename_i heq
    exact absurd (List.cons.inj heq).1 (hne '[' (by decide) rfl)
  · rename_i heq
    exact absurd (List.cons.inj heq).1 (hne '\x7b' (by decide) rfl)
  · rw [h]
    rfl

theorem NumberLiteral.starts (number : NumberLiteral) :
    ∃ c tail, number.text = c :: tail ∧ isBlank c = false ∧ c ≠ ']' := by
  have hscans := number.scans [] (by simp [Delimited])
  rw [List.append_nil] at hscans
  obtain ⟨c, tail, htext, hhead⟩ := rawNumber_head hscans
  refine ⟨c, tail, htext, ?_, ?_⟩
  · by_contra hblank
    simp only [isBlank, Bool.not_eq_false, Bool.or_eq_true, beq_iff_eq] at hblank
    rcases hblank with ((rfl | rfl) | rfl) | rfl <;> revert hhead <;> decide
  · rintro rfl
    revert hhead
    decide

theorem parseValue_marshal (value : GoValue) (fuel : Nat) (rest : List Char)
    (hfuel : 2 * (marshal value).length ≤ fuel) (hrest : Delimited rest) :
    parseValue rawRead rawNumber fuel (marshal value ++ rest) = some (GoValue.raw value, rest) := by
  refine parseValue_write (f := goLiteral) (g := NumberLiteral.text) ?_ ?_ value fuel rest hfuel hrest
  · intro s
    refine ⟨goLiteral s ++ ['"'], rfl, ?_⟩
    intro rest
    rw [List.append_assoc]
    exact rawRead_goLiteral s rest
  · intro number
    refine ⟨number.starts, ?_⟩
    intro rest fuel hrest
    have hscans := number.scans rest hrest
    obtain ⟨c, tail, htext, hhead⟩ := rawNumber_head hscans
    rw [htext] at hscans ⊢
    exact parseValue_number hhead hscans fuel

theorem rawDocument_marshal (value : GoValue) : rawDocument (marshal value) = some (GoValue.raw value) := by
  have hvalue := parseValue_marshal value (2 * (marshal value).length + 1) [] (by omega) (by simp [Delimited])
  rw [List.append_nil] at hvalue
  rw [rawDocument, parseDocument, hvalue]
  rfl

/-! ## Documents the encoder has written -/

def Written (document : RawDocument) : Prop := ∃ value : GoValue, GoValue.raw value = document

theorem Written.null : Written .null := ⟨.null, rfl⟩

theorem Written.arr {items : List RawDocument} (h : ∀ item ∈ items, Written item) : Written (.arr items) := by
  have hvalues : ∃ values : List GoValue, mapItems goLiteral NumberLiteral.text values = items := by
    induction items with
    | nil => exact ⟨[], rfl⟩
    | cons item items ih =>
      obtain ⟨value, rfl⟩ := h item List.mem_cons_self
      obtain ⟨values, rfl⟩ := ih fun other hother => h other (List.mem_cons_of_mem _ hother)
      exact ⟨value :: values, rfl⟩
  obtain ⟨values, rfl⟩ := hvalues
  exact ⟨.arr values, rfl⟩

theorem Written.scanned {document : RawDocument} (h : Written document) :
    rawDocument (rawText document ++ ['\n']) = some document := by
  obtain ⟨value, rfl⟩ := h
  rw [← marshal_eq_rawText]
  have hdelimited : Delimited ['\n'] := by
    intro c hc
    cases hc
    exact .inl rfl
  have hvalue := parseValue_marshal value (2 * (marshal value ++ ['\n']).length + 1) ['\n']
    (by rw [List.length_append]; omega) hdelimited
  rw [rawDocument, parseDocument, hvalue]
  rfl

/-! ## Decimal numerals -/

theorem takeWhile_append_delimited {digits rest : List Char} (hdigits : ∀ c ∈ digits, c.isDigit = true)
    (hrest : ∀ c ∈ rest.head?, c.isDigit = false) :
    (digits ++ rest).takeWhile Char.isDigit = digits ∧ (digits ++ rest).dropWhile Char.isDigit = rest := by
  have hnone : rest.takeWhile Char.isDigit = [] ∧ rest.dropWhile Char.isDigit = rest := by
    cases rest with
    | nil => exact ⟨rfl, rfl⟩
    | cons c tail =>
      have hc : c.isDigit = false := hrest c rfl
      simp [hc]
  rw [List.takeWhile_append_of_pos hdigits, List.dropWhile_append_of_pos hdigits, hnone.1, hnone.2,
    List.append_nil]
  exact ⟨rfl, rfl⟩

theorem Delimited.not_number {rest : List Char} (h : Delimited rest) :
    (∀ c ∈ rest.head?, c.isDigit = false) ∧ rawFraction rest = some ([], rest) ∧
      rawExponent rest = some ([], rest) := by
  cases rest with
  | nil => exact ⟨by simp, rfl, rfl⟩
  | cons c tail =>
    have hc := h c rfl
    simp only [isBlank, Bool.or_eq_true, beq_iff_eq] at hc
    have hall : c.isDigit = false ∧ c ≠ '.' ∧ c ≠ 'e' ∧ c ≠ 'E' := by
      rcases hc with (((rfl | rfl) | rfl) | rfl) | rfl | rfl | rfl <;> decide
    obtain ⟨hdigit, hdot, he, hE⟩ := hall
    refine ⟨?_, ?_, ?_⟩
    · rintro d hd
      cases hd
      exact hdigit
    · rw [rawFraction]
      intro rest heq
      exact hdot (List.cons.inj heq).1
    · rw [rawExponent, if_neg]
      rintro (h | h)
      · exact he h
      · exact hE h

theorem rawInteger_toDigits (n : Nat) {rest : List Char} (hrest : ∀ c ∈ rest.head?, c.isDigit = false) :
    rawInteger (Nat.toDigits 10 n ++ rest) = some (Nat.toDigits 10 n, rest) := by
  obtain ⟨c, tail, hdigits, hzero⟩ := toDigits_head n
  have hall : ∀ d ∈ Nat.toDigits 10 n, d.isDigit = true := by
    intro d hd
    exact Nat.isDigit_of_mem_toDigits (by omega) (by omega) hd
  obtain ⟨htake, hdrop⟩ := takeWhile_append_delimited hall hrest
  by_cases hc : c = '0'
  · subst hc
    rw [hdigits, (hzero rfl).1]
    rfl
  · rw [hdigits, List.cons_append, rawInteger]
    · rw [rawDigits, ← List.cons_append, ← hdigits, htake, hdrop, hdigits]
    · intro tail' heq
      exact hc (List.cons.inj heq).1

def decimalLiteral (n : Nat) : NumberLiteral where
  text := Nat.toDigits 10 n
  scans := by
    intro rest hrest
    obtain ⟨hdigit, hfraction, hexponent⟩ := hrest.not_number
    obtain ⟨c, tail, hdigits, -⟩ := toDigits_head n
    have hc : c.isDigit = true :=
      Nat.isDigit_of_mem_toDigits (by omega) (by omega) (hdigits ▸ List.mem_cons_self)
    have hmagnitude : rawMagnitude (Nat.toDigits 10 n ++ rest) = some (Nat.toDigits 10 n, rest) := by
      simp only [rawMagnitude, rawInteger_toDigits n hdigit, hfraction, hexponent, Option.bind_eq_bind,
        Option.bind_some, List.append_nil]
    rw [hdigits] at hmagnitude ⊢
    rw [List.cons_append, rawNumber]
    · exact hmagnitude
    · intro tail' heq
      rw [(List.cons.inj heq).1] at hc
      cases hc

/-- `strconv.ParseUint` on the literal of a number. -/
def parseUint (bound : Nat) (literal : List Char) : Option Nat :=
  if literal.all Char.isDigit then (some (Nat.ofDigitChars 10 literal 0)).filter (· < bound) else none

theorem parseUint_decimal {n bound : Nat} (h : n < bound) : parseUint bound (decimalLiteral n).text = some n := by
  have hall : (Nat.toDigits 10 n).all Char.isDigit = true := by
    rw [List.all_eq_true]
    intro d hd
    exact Nat.isDigit_of_mem_toDigits (by omega) (by omega) hd
  have hvalue : Nat.ofDigitChars 10 (Nat.toDigits 10 n) 0 = n := Nat.ofDigitChars_ten_toDigits
  simp only [parseUint, decimalLiteral, hall, if_true, hvalue, Option.filter_some, decide_eq_true_eq, if_pos h]

/-! ## Raw documents into structs -/

section Decode
variable {σ α : Type}

/-- An object the encoder writes, by the names of its members. -/
def rawObj (members : List (String × RawDocument)) : RawDocument :=
  .obj (members.map fun member => (goLiteral member.1, member.2))

def rawStr (s : String) : RawDocument := .str (goLiteral s)

def rawNum (n : Nat) : RawDocument := .num (decimalLiteral n).text

theorem Written.obj {members : List (String × RawDocument)} (h : ∀ member ∈ members, Written member.2) :
    Written (rawObj members) := by
  have hvalues : ∃ values : List (String × GoValue), mapMembers goLiteral NumberLiteral.text values =
      members.map fun member => (goLiteral member.1, member.2) := by
    induction members with
    | nil => exact ⟨[], rfl⟩
    | cons member members ih =>
      obtain ⟨value, hvalue⟩ := h member List.mem_cons_self
      obtain ⟨values, hvalues⟩ := ih fun other hother => h other (List.mem_cons_of_mem _ hother)
      refine ⟨(member.1, value) :: values, ?_⟩
      rw [mapMembers, hvalues]
      exact congrArg (fun item => (goLiteral member.1, item) :: _) hvalue
  obtain ⟨values, hvalues⟩ := hvalues
  exact ⟨.obj values, congrArg Json.obj hvalues⟩

theorem Written.str (s : String) : Written (rawStr s) := ⟨.str s, rfl⟩

theorem Written.num (n : Nat) : Written (rawNum n) := ⟨.num (decimalLiteral n), rfl⟩

theorem raw_obj (members : List (String × GoValue)) :
    GoValue.raw (.obj members) = rawObj (members.map fun member => (member.1, GoValue.raw member.2)) := by
  rw [rawObj, List.map_map]
  exact congrArg Json.obj (mapMembers_eq_map members)

def unquoteKeys : List (List Char × RawDocument) → Option (List (String × RawDocument))
  | [] => some []
  | (literal, item) :: rest =>
    match unquote literal, unquoteKeys rest with
    | some key, some rest => some ((key, item) :: rest)
    | _, _ => none

theorem unquoteKeys_map (members : List (String × RawDocument)) :
    unquoteKeys (members.map fun member => (goLiteral member.1, member.2)) = some members := by
  induction members with
  | nil => rfl
  | cons member members ih => simp only [List.map_cons, unquoteKeys, unquote_goLiteral, ih]

def rawStruct (fields : FieldsOf RawDocument σ) (value : σ) : RawDocument → Option σ
  | .null => some value
  | .obj members => (unquoteKeys members).bind (decodeMembers fields value)
  | _ => none

theorem rawStruct_rawObj (fields : FieldsOf RawDocument σ) (value : σ) (members : List (String × RawDocument)) :
    rawStruct fields value (rawObj members) = decodeMembers fields value members := by
  rw [rawObj, rawStruct, unquoteKeys_map]
  rfl

def rawTextField (value : String) : RawDocument → Option String
  | .null => some value
  | .str literal => unquote literal
  | _ => none

@[simp] theorem rawTextField_rawStr (value s : String) : rawTextField value (rawStr s) = some s :=
  unquote_goLiteral s

def rawUintField (bound value : Nat) : RawDocument → Option Nat
  | .null => some value
  | .num literal => parseUint bound literal
  | _ => none

theorem rawUintField_rawNum {bound n : Nat} (h : n < bound) (value : Nat) :
    rawUintField bound value (rawNum n) = some n := parseUint_decimal h

def rawBoolField (value : Bool) : RawDocument → Option Bool
  | .null => some value
  | .bool b => some b
  | _ => none

/-- A pointer to a struct; `null` makes it nil. -/
def rawPointer (decode : RawDocument → Option α) : RawDocument → Option (Option α)
  | .null => some none
  | item => (decode item).map some

def rawItems (decode : RawDocument → Option α) : List RawDocument → Option (List α)
  | [] => some []
  | item :: rest =>
    match decode item, rawItems decode rest with
    | some value, some rest => some (value :: rest)
    | _, _ => none

/-- A slice, with nil for `null`. -/
def rawSlice (decode : RawDocument → Option α) : RawDocument → Option (List α)
  | .null => some []
  | .arr items => rawItems decode items
  | _ => none

/-- A map, with the empty one for `null`. -/
def rawMap (decode : RawDocument → Option α) : RawDocument → Option (StringMap α)
  | .null => some .empty
  | .obj members => (unquoteKeys members).bind (decodeEntries decode .empty)
  | _ => none

def rawMapDocument (item : α → RawDocument) (m : StringMap α) : RawDocument :=
  rawObj (m.entries.map fun entry => (entry.1, item entry.2))

theorem rawMap_document {decode : RawDocument → Option α} {item : α → RawDocument} {m : StringMap α}
    (h : ∀ entry ∈ m.entries, decode (item entry.2) = some entry.2) :
    rawMap decode (rawMapDocument item m) = some m := by
  rw [rawMapDocument, rawObj, rawMap, unquoteKeys_map, Option.bind_some, decodeEntries_map h,
    StringMap.insertAll_entries]

end Decode

end JsonText
