import LivepeerTranscode.Shared.JsonParse

/-!
# Strings of JavaScript and of Go in JSON text

A JavaScript string is a list of UTF-16 units, so it may hold a surrogate without its
partner; `JSON.stringify` escapes such a unit. A Go string that was decoded from JSON is
a list of scalar values: the decoder puts U+FFFD where a surrogate stood alone.
-/

namespace JsonText
set_option autoImplicit false

abbrev JsString : Type := List UInt16

def isHigh (u : UInt16) : Bool := 0xD800 ≤ u.toNat && u.toNat < 0xDC00

def isLow (u : UInt16) : Bool := 0xDC00 ≤ u.toNat && u.toNat < 0xE000

def pairChar (u v : UInt16) : Char :=
  Char.ofNat (0x10000 + (u.toNat - 0xD800) * 0x400 + (v.toNat - 0xDC00))

def utf16Char (c : Char) : JsString :=
  if c.toNat < 0x10000 then [UInt16.ofNat c.toNat]
  else [UInt16.ofNat (0xD800 + (c.toNat - 0x10000) / 0x400),
    UInt16.ofNat (0xDC00 + (c.toNat - 0x10000) % 0x400)]

def utf16 (text : List Char) : JsString := text.flatMap utf16Char

/-- A unit that is not half of a pair: a scalar value or a surrogate on its own. -/
def unitPoint (u : UInt16) : Char ⊕ UInt16 :=
  if isHigh u || isLow u then .inr u else .inl (Char.ofNat u.toNat)

def codePoints : JsString → List (Char ⊕ UInt16)
  | [] => []
  | [u] => [unitPoint u]
  | u :: v :: rest =>
    if isHigh u && isLow v then .inl (pairChar u v) :: codePoints rest
    else unitPoint u :: codePoints (v :: rest)

theorem codePoints_ne_nil {s : JsString} (h : s ≠ []) : codePoints s ≠ [] := by
  match s, h with
  | [u], _ => exact List.cons_ne_nil _ _
  | u :: v :: rest, _ =>
    rw [codePoints]
    split <;> exact List.cons_ne_nil _ _

/-- The text with U+FFFD for every surrogate on its own. -/
def scalars (s : JsString) : List Char :=
  (codePoints s).map (Sum.elim id fun _ => '�')

def WellFormed (s : JsString) : Prop := utf16 (scalars s) = s

instance : DecidablePred WellFormed := fun s => inferInstanceAs (Decidable (utf16 (scalars s) = s))

def jsEscape : Char ⊕ UInt16 → List Char
  | .inl c => escapeChar c
  | .inr u => unicodeEscape u.toNat

/-- How `JSON.stringify` writes a string. -/
def jsQuote (s : JsString) : List Char := '"' :: (codePoints s).flatMap jsEscape ++ ['"']

/-! ## Reading -/

def hexValue (c : Char) : Option Nat :=
  if 48 ≤ c.toNat ∧ c.toNat ≤ 57 then some (c.toNat - 48)
  else if 97 ≤ c.toNat ∧ c.toNat ≤ 102 then some (c.toNat - 87)
  else if 65 ≤ c.toNat ∧ c.toNat ≤ 70 then some (c.toNat - 55)
  else none

def hex4 (a b c d : Char) : Option Nat :=
  match hexValue a, hexValue b, hexValue c, hexValue d with
  | some a, some b, some c, some d => some (a * 4096 + b * 256 + c * 16 + d)
  | _, _, _, _ => none

def shortEscape : Char → Option Char
  | '"' => some '"'
  | '\\' => some '\\'
  | '/' => some '/'
  | 'b' => some '\x08'
  | 'f' => some '\x0C'
  | 'n' => some '\n'
  | 'r' => some '\r'
  | 't' => some '\t'
  | _ => none

def before {α : Type} (front : List α) (result : Option (List α × List Char)) :
    Option (List α × List Char) :=
  result.map fun (value, rest) => (front ++ value, rest)

/-- `JSON.parse` on a string after its opening quote. -/
def jsRead : List Char → Option (JsString × List Char)
  | [] => none
  | '"' :: rest => some ([], rest)
  | '\\' :: 'u' :: a :: b :: c :: d :: rest =>
    match hex4 a b c d with
    | some n => before [UInt16.ofNat n] (jsRead rest)
    | none => none
  | '\\' :: e :: rest =>
    match shortEscape e with
    | some c => before (utf16Char c) (jsRead rest)
    | none => none
  | c :: rest => if c.toNat < 0x20 then none else before (utf16Char c) (jsRead rest)

/-- The scalar value of two escapes that make a surrogate pair. -/
def escapedPair (n m : Option Nat) : Option Char :=
  match n, m with
  | some n, some m =>
    if isHigh (UInt16.ofNat n) && isLow (UInt16.ofNat m) then
      some (pairChar (UInt16.ofNat n) (UInt16.ofNat m))
    else none
  | _, _ => none

/-- The scalar value of one escape; a surrogate on its own is U+FFFD. -/
def escapedChar (n : Nat) : Char :=
  if isHigh (UInt16.ofNat n) || isLow (UInt16.ofNat n) then '�' else Char.ofNat n

/-- `encoding/json` on a string after its opening quote. -/
def goRead : List Char → Option (List Char × List Char)
  | [] => none
  | '"' :: rest => some ([], rest)
  | '\\' :: 'u' :: a :: b :: c :: d :: '\\' :: 'u' :: a' :: b' :: c' :: d' :: rest =>
    match escapedPair (hex4 a b c d) (hex4 a' b' c' d') with
    | some pair => before [pair] (goRead rest)
    | none =>
      match hex4 a b c d with
      | some n => before [escapedChar n] (goRead ('\\' :: 'u' :: a' :: b' :: c' :: d' :: rest))
      | none => none
  | '\\' :: 'u' :: a :: b :: c :: d :: rest =>
    match hex4 a b c d with
    | some n => before [escapedChar n] (goRead rest)
    | none => none
  | '\\' :: e :: rest =>
    match shortEscape e with
    | some c => before [c] (goRead rest)
    | none => none
  | c :: rest => if c.toNat < 0x20 then none else before [c] (goRead rest)

/-! ## Units and scalar values -/

theorem toNat_lt_of_not_surrogate (c : Char) : c.toNat < 0xD800 ∨ (0xDFFF < c.toNat ∧ c.toNat < 0x110000) := by
  have h := c.valid
  rcases h with h | ⟨h₁, h₂⟩
  · exact .inl h
  · exact .inr ⟨h₁, h₂⟩

theorem charOfNat_toNat {n : Nat} (h : n < 0xD800 ∨ (0xDFFF < n ∧ n < 0x110000)) :
    (Char.ofNat n).toNat = n := by
  have hvalid : n.isValidChar := h
  rw [Char.ofNat, dif_pos hvalid]
  rfl

theorem codePoints_utf16Char (c : Char) (rest : JsString) :
    codePoints (utf16Char c ++ rest) = .inl c :: codePoints rest := by
  have hc := toNat_lt_of_not_surrogate c
  unfold utf16Char
  split
  · rename_i hsmall
    have hunit : (UInt16.ofNat c.toNat).toNat = c.toNat := by
      simp only [UInt16.toNat_ofNat']
      omega
    have hpoint : unitPoint (UInt16.ofNat c.toNat) = .inl c := by
      have hsurrogate : (isHigh (UInt16.ofNat c.toNat) || isLow (UInt16.ofNat c.toNat)) = false := by
        simp only [isHigh, isLow, hunit, Bool.or_eq_false_iff, Bool.and_eq_false_iff,
          decide_eq_false_iff_not]
        omega
      rw [unitPoint, hsurrogate, hunit]
      simp
    cases rest with
    | nil => simp [codePoints, hpoint]
    | cons v rest =>
      have hhigh : isHigh (UInt16.ofNat c.toNat) = false := by
        simp only [isHigh, hunit, Bool.and_eq_false_iff, decide_eq_false_iff_not]
        omega
      simp [codePoints, hpoint, hhigh]
  · rename_i hbig
    have hhigh : (UInt16.ofNat (0xD800 + (c.toNat - 0x10000) / 0x400)).toNat =
        0xD800 + (c.toNat - 0x10000) / 0x400 := by
      simp only [UInt16.toNat_ofNat']
      omega
    have hlow : (UInt16.ofNat (0xDC00 + (c.toNat - 0x10000) % 0x400)).toNat =
        0xDC00 + (c.toNat - 0x10000) % 0x400 := by
      simp only [UInt16.toNat_ofNat']
      omega
    have hpair : (isHigh (UInt16.ofNat (0xD800 + (c.toNat - 0x10000) / 0x400)) &&
        isLow (UInt16.ofNat (0xDC00 + (c.toNat - 0x10000) % 0x400))) = true := by
      simp only [isHigh, isLow, hhigh, hlow, Bool.and_eq_true, decide_eq_true_eq]
      omega
    have hchar : pairChar (UInt16.ofNat (0xD800 + (c.toNat - 0x10000) / 0x400))
        (UInt16.ofNat (0xDC00 + (c.toNat - 0x10000) % 0x400)) = c := by
      have hvalue : 0x10000 + (0xD800 + (c.toNat - 0x10000) / 0x400 - 0xD800) * 0x400 +
          (0xDC00 + (c.toNat - 0x10000) % 0x400 - 0xDC00) = c.toNat := by
        omega
      rw [pairChar, hhigh, hlow, hvalue]
      exact Char.ofNat_toNat c
    simp only [List.cons_append, List.nil_append, codePoints, hpair, if_true, hchar]

theorem codePoints_utf16 (text : List Char) : codePoints (utf16 text) = text.map .inl := by
  induction text with
  | nil => rfl
  | cons c text ih =>
    rw [utf16, List.flatMap_cons, codePoints_utf16Char, List.map_cons]
    exact congrArg _ ih

@[simp] theorem scalars_utf16 (text : List Char) : scalars (utf16 text) = text := by
  simp [scalars, codePoints_utf16, Function.comp_def]

theorem wellFormed_utf16 (text : List Char) : WellFormed (utf16 text) := by
  rw [WellFormed, scalars_utf16]

theorem jsQuote_utf16 (text : List Char) :
    jsQuote (utf16 text) = '"' :: text.flatMap escapeChar ++ ['"'] := by
  simp [jsQuote, codePoints_utf16, List.flatMap_map, jsEscape]

theorem pairChar_toNat {u v : UInt16} (h : (isHigh u && isLow v) = true) :
    (pairChar u v).toNat = 0x10000 + (u.toNat - 0xD800) * 0x400 + (v.toNat - 0xDC00) := by
  simp only [isHigh, isLow, Bool.and_eq_true, decide_eq_true_eq] at h
  unfold pairChar
  generalize hn : 0x10000 + (u.toNat - 0xD800) * 0x400 + (v.toNat - 0xDC00) = n
  exact charOfNat_toNat (by omega)

theorem utf16Char_pairChar {u v : UInt16} (h : (isHigh u && isLow v) = true) :
    utf16Char (pairChar u v) = [u, v] := by
  have hvalue := pairChar_toNat h
  simp only [isHigh, isLow, Bool.and_eq_true, decide_eq_true_eq] at h
  have hhigh : UInt16.ofNat (0xD800 + ((pairChar u v).toNat - 0x10000) / 0x400) = u := by
    apply UInt16.toNat_inj.mp
    rw [UInt16.toNat_ofNat']
    omega
  have hlow : UInt16.ofNat (0xDC00 + ((pairChar u v).toNat - 0x10000) % 0x400) = v := by
    apply UInt16.toNat_inj.mp
    rw [UInt16.toNat_ofNat']
    omega
  rw [utf16Char, if_neg (by omega), hhigh, hlow]

theorem utf16Char_unit {u : UInt16} (h : (isHigh u || isLow u) = false) :
    utf16Char (Char.ofNat u.toNat) = [u] := by
  have hlt := u.toNat_lt
  simp only [isHigh, isLow, Bool.or_eq_false_iff, Bool.and_eq_false_iff, decide_eq_false_iff_not] at h
  have hvalue : (Char.ofNat u.toNat).toNat = u.toNat := by
    apply charOfNat_toNat
    omega
  unfold utf16Char
  rw [if_pos (by omega), hvalue, UInt16.ofNat_toNat]

/-! ## Reading back -/

theorem hexValue_digitChar {d : Nat} (h : d < 16) : hexValue (Nat.digitChar d) = some d := by
  have hall : ∀ d : Fin 16, hexValue (Nat.digitChar d) = some d.val := by decide
  exact hall ⟨d, h⟩

theorem hex4_unicodeEscape {n : Nat} (h : n < 65536) :
    hex4 (Nat.digitChar (n / 4096 % 16)) (Nat.digitChar (n / 256 % 16)) (Nat.digitChar (n / 16 % 16))
      (Nat.digitChar (n % 16)) = some n := by
  have hdigit : ∀ k, hexValue (Nat.digitChar (k % 16)) = some (k % 16) := fun k =>
    hexValue_digitChar (Nat.mod_lt k (by decide))
  simp only [hex4, hdigit, Option.some.injEq]
  omega

theorem jsRead_unicodeEscape {n : Nat} (h : n < 65536) (rest : List Char) :
    jsRead (unicodeEscape n ++ rest) = before [UInt16.ofNat n] (jsRead rest) := by
  simp only [unicodeEscape, List.cons_append, List.nil_append, jsRead, hex4_unicodeEscape h]

theorem escapeChar_cases (c : Char) :
    (∃ e, shortEscape e = some c ∧ e ≠ 'u' ∧ escapeChar c = ['\\', e]) ∨
      (c.toNat < 0x20 ∧ escapeChar c = unicodeEscape c.toNat) ∨
      (0x20 ≤ c.toNat ∧ c ≠ '"' ∧ c ≠ '\\' ∧ escapeChar c = [c]) := by
  unfold escapeChar
  split
  · rename_i h
    exact .inl ⟨'"', congrArg some (Char.toNat_inj.mp h).symm, by decide, rfl⟩
  · rename_i h
    exact .inl ⟨'\\', congrArg some (Char.toNat_inj.mp h).symm, by decide, rfl⟩
  · rename_i h
    exact .inl ⟨'b', congrArg some (Char.toNat_inj.mp h).symm, by decide, rfl⟩
  · rename_i h
    exact .inl ⟨'f', congrArg some (Char.toNat_inj.mp h).symm, by decide, rfl⟩
  · rename_i h
    exact .inl ⟨'n', congrArg some (Char.toNat_inj.mp h).symm, by decide, rfl⟩
  · rename_i h
    exact .inl ⟨'r', congrArg some (Char.toNat_inj.mp h).symm, by decide, rfl⟩
  · rename_i h
    exact .inl ⟨'t', congrArg some (Char.toNat_inj.mp h).symm, by decide, rfl⟩
  · split
    · rename_i h
      exact .inr (.inl ⟨h, rfl⟩)
    · rename_i hquote hslash _ _ _ _ _ h
      refine .inr (.inr ⟨Nat.le_of_not_lt h, ?_, ?_, rfl⟩)
      · rintro rfl
        exact hquote rfl
      · rintro rfl
        exact hslash rfl

theorem jsRead_escapeChar (c : Char) (rest : List Char) :
    jsRead (escapeChar c ++ rest) = before (utf16Char c) (jsRead rest) := by
  rcases escapeChar_cases c with ⟨e, hshort, hu, he⟩ | ⟨hsmall, he⟩ | ⟨hbig, hquote, hslash, he⟩
  · rw [he, List.cons_append, List.cons_append, List.nil_append, jsRead]
    · rw [hshort]
    · intro a b c d rest h
      exact absurd h hu
  · rw [he, jsRead_unicodeEscape (by omega)]
    simp [utf16Char, show c.toNat < 0x10000 by omega]
  · rw [he, List.cons_append, List.nil_append, jsRead]
    · rw [if_neg (Nat.not_lt.mpr hbig)]
    · exact hquote
    · intro a b c d rest h
      exact absurd h hslash
    · intro e rest h
      exact absurd h hslash

/-- `JSON.parse` takes back every string `JSON.stringify` wrote. -/
theorem jsRead_codePoints (s : JsString) (rest : List Char) :
    jsRead ((codePoints s).flatMap jsEscape ++ '"' :: rest) = some (s, rest) := by
  have hunit : ∀ (u : UInt16) (text : List Char),
      jsRead (jsEscape (unitPoint u) ++ text) = before [u] (jsRead text) := by
    intro u text
    unfold unitPoint
    split
    · rw [jsEscape, jsRead_unicodeEscape u.toNat_lt, UInt16.ofNat_toNat]
    · rename_i hplain
      rw [jsEscape, jsRead_escapeChar, utf16Char_unit (Bool.eq_false_iff.mpr hplain)]
  induction s using codePoints.induct with
  | case1 => rfl
  | case2 u =>
    rw [codePoints, List.flatMap_cons, List.append_assoc, hunit]
    rfl
  | case3 u v tail hpair ih =>
    rw [codePoints, if_pos hpair, List.flatMap_cons, List.append_assoc, jsEscape, jsRead_escapeChar,
      utf16Char_pairChar hpair, ih]
    rfl
  | case4 u v tail hpair ih =>
    rw [codePoints, if_neg hpair, List.flatMap_cons, List.append_assoc, hunit, ih]
    rfl

theorem goEscapeChar_cases (html : Bool) (c : Char) :
    (c.toNat < 0xD800 ∧ goEscapeChar html c = unicodeEscape c.toNat) ∨
      (¬ (c.toNat = 0x2028 ∨ c.toNat = 0x2029) ∧
        ¬ (html = true ∧ ((c.toNat = 0x3C ∨ c.toNat = 0x3E) ∨ c.toNat = 0x26)) ∧
        goEscapeChar html c = escapeChar c) := by
  simp only [goEscapeChar, Bool.or_eq_true, Bool.and_eq_true, beq_iff_eq]
  split
  · exact .inl ⟨by omega, rfl⟩
  · rename_i hseparator
    split
    · exact .inl ⟨by omega, rfl⟩
    · rename_i hhtml
      exact .inr ⟨hseparator, hhtml, rfl⟩

theorem jsRead_goEscapeChar (html : Bool) (c : Char) (rest : List Char) :
    jsRead (goEscapeChar html c ++ rest) = before (utf16Char c) (jsRead rest) := by
  rcases goEscapeChar_cases html c with ⟨hsmall, h⟩ | ⟨-, -, h⟩
  · have hunit : c.toNat < 0x10000 := by omega
    rw [h, jsRead_unicodeEscape hunit, utf16Char, if_pos hunit]
  · rw [h, jsRead_escapeChar]

/-- `JSON.parse` reads what a Go encoder wrote as the units of its text. -/
theorem jsRead_goEscape (html : Bool) (text rest : List Char) :
    jsRead (text.flatMap (goEscapeChar html) ++ '"' :: rest) = some (utf16 text, rest) := by
  induction text with
  | nil => rfl
  | cons c text ih =>
    rw [List.flatMap_cons, List.append_assoc, jsRead_goEscapeChar, ih]
    rfl

theorem goRead_unicodeEscape {n : Nat} (h : n < 0xD800) (rest : List Char) :
    goRead (unicodeEscape n ++ rest) = before [Char.ofNat n] (goRead rest) := by
  have hunit : (UInt16.ofNat n).toNat = n := by
    rw [UInt16.toNat_ofNat']
    omega
  have hhigh : isHigh (UInt16.ofNat n) = false := by
    simp only [isHigh, hunit, Bool.and_eq_false_iff, decide_eq_false_iff_not]
    omega
  have hlow : isLow (UInt16.ofNat n) = false := by
    simp only [isLow, hunit, Bool.and_eq_false_iff, decide_eq_false_iff_not]
    omega
  have hpair : ∀ m, escapedPair (some n) m = none := by
    intro m
    cases m <;> simp [escapedPair, hhigh]
  have hchar : escapedChar n = Char.ofNat n := by
    simp [escapedChar, hhigh, hlow]
  simp only [unicodeEscape, List.cons_append, List.nil_append]
  by_cases hnext : ∃ a b c d tail, rest = '\\' :: 'u' :: a :: b :: c :: d :: tail
  · obtain ⟨a, b, c, d, tail, rfl⟩ := hnext
    simp only [goRead, hex4_unicodeEscape (show n < 65536 by omega), hpair, hchar]
  · rw [goRead]
    · simp only [hex4_unicodeEscape (show n < 65536 by omega), hchar]
    · intro a b c d tail heq
      exact hnext ⟨a, b, c, d, tail, heq⟩

theorem goRead_escapeChar (c : Char) (rest : List Char) :
    goRead (escapeChar c ++ rest) = before [c] (goRead rest) := by
  rcases escapeChar_cases c with ⟨e, hshort, hu, he⟩ | ⟨hsmall, he⟩ | ⟨hbig, hquote, hslash, he⟩
  · rw [he, List.cons_append, List.cons_append, List.nil_append, goRead]
    · rw [hshort]
    · intro a b c d a' b' c' d' tail h
      exact absurd h hu
    · intro a b c d tail h
      exact absurd h hu
  · rw [he, goRead_unicodeEscape (by omega), Char.ofNat_toNat]
  · rw [he, List.cons_append, List.nil_append, goRead]
    · rw [if_neg (Nat.not_lt.mpr hbig)]
    · exact hquote
    · intro a b c d a' b' c' d' tail h
      exact absurd h hslash
    · intro a b c d tail h
      exact absurd h hslash
    · intro e tail h
      exact absurd h hslash

theorem goRead_escape (text rest : List Char) :
    goRead (text.flatMap escapeChar ++ '"' :: rest) = some (text, rest) := by
  induction text with
  | nil => rfl
  | cons c text ih =>
    rw [List.flatMap_cons, List.append_assoc, goRead_escapeChar, ih]
    rfl

theorem goRead_goEscapeChar (html : Bool) (c : Char) (rest : List Char) :
    goRead (goEscapeChar html c ++ rest) = before [c] (goRead rest) := by
  rcases goEscapeChar_cases html c with ⟨hsmall, h⟩ | ⟨-, -, h⟩
  · rw [h, goRead_unicodeEscape hsmall, Char.ofNat_toNat]
  · rw [h, goRead_escapeChar]

theorem goRead_goEscape (html : Bool) (text rest : List Char) :
    goRead (text.flatMap (goEscapeChar html) ++ '"' :: rest) = some (text, rest) := by
  induction text with
  | nil => rfl
  | cons c text ih =>
    rw [List.flatMap_cons, List.append_assoc, goRead_goEscapeChar, ih]
    rfl

/-! ## Where the two encoders agree -/

/-- The characters a Go encoder escapes and `JSON.stringify` does not. -/
def isSeparator (c : Char) : Bool := c.toNat == 0x2028 || c.toNat == 0x2029

theorem goEscapeChar_eq {c : Char} (h : isSeparator c = false) : goEscapeChar false c = escapeChar c := by
  unfold isSeparator at h
  simp [goEscapeChar, h]

theorem isSeparator_ascii {c : Char} (h : c.toNat < 128) : isSeparator c = false := by
  simp only [isSeparator, Bool.or_eq_false_iff, beq_eq_false_iff_ne]
  omega

theorem shortEscape_ascii {e c : Char} (h : shortEscape e = some c) : e.toNat < 128 ∧ c.toNat < 128 := by
  unfold shortEscape at h
  split at h <;> cases h <;> decide

theorem mem_unicodeEscape {c : Char} {n : Nat} (h : c ∈ unicodeEscape n) : 0x20 ≤ c.toNat ∧ c.toNat < 128 := by
  have hdigit : ∀ k < 16, 0x20 ≤ (Nat.digitChar k).toNat ∧ (Nat.digitChar k).toNat < 128 := by decide
  simp only [unicodeEscape, List.mem_cons, List.not_mem_nil, or_false] at h
  rcases h with rfl | rfl | rfl | rfl | rfl | rfl
  · decide
  · decide
  · exact hdigit _ (Nat.mod_lt _ (by decide))
  · exact hdigit _ (Nat.mod_lt _ (by decide))
  · exact hdigit _ (Nat.mod_lt _ (by decide))
  · exact hdigit _ (Nat.mod_lt _ (by decide))

/-- What an encoder writes for a character is printable ASCII, or the character itself. -/
theorem mem_goEscapeChar {html : Bool} {c d : Char} (h : d ∈ goEscapeChar html c) :
    (0x20 ≤ d.toNat ∧ d.toNat < 128) ∨ d = c ∧ 0x20 ≤ c.toNat ∧ ¬ (c.toNat = 0x2028 ∨ c.toNat = 0x2029) := by
  rcases goEscapeChar_cases html c with ⟨-, he⟩ | ⟨hplain, -, he⟩
  · exact .inl (mem_unicodeEscape (he ▸ h))
  rw [he] at h
  rcases escapeChar_cases c with ⟨e, hshort, -, he⟩ | ⟨-, he⟩ | ⟨hprint, -, -, he⟩
  · rw [he] at h
    simp only [List.mem_cons, List.not_mem_nil, or_false] at h
    unfold shortEscape at hshort
    rcases h with rfl | rfl
    · exact .inl (by decide)
    · split at hshort <;> cases hshort <;> exact .inl (by decide)
  · exact .inl (mem_unicodeEscape (he ▸ h))
  · exact .inr ⟨List.mem_singleton.mp (he ▸ h), hprint, hplain⟩

theorem isSeparator_goQuote (s : String) : ∀ c ∈ goQuote false s, isSeparator c = false := by
  intro c hc
  simp only [goQuote, List.cons_append, List.mem_cons, List.mem_append, List.mem_flatMap,
    List.not_mem_nil, or_false] at hc
  rcases hc with rfl | ⟨d, -, hd⟩ | rfl
  · decide
  · rcases mem_goEscapeChar hd with hascii | ⟨rfl, -, hplain⟩
    · exact isSeparator_ascii hascii.2
    · simpa [isSeparator] using hplain
  · decide

end JsonText
