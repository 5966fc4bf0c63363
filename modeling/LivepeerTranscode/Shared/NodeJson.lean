import LivepeerTranscode.Shared.Binary64
import LivepeerTranscode.Shared.JsonRaw

/-!
# How Node reads JSON bytes

`Buffer.toString` puts U+FFFD for every longest start of a character that goes wrong.
`JSON.parse` reads a number as the nearest double and lets the last member of a name win, in
the place of the first. A text that a Go encoder wrote is read back as the value it was given.
-/

namespace JsonText
set_option autoImplicit false

/-! ## Text -/

/-- How many bytes follow a leading byte, and the range of the first of them. -/
def leadRange (a : Nat) : Nat × Nat × Nat :=
  if a < 0xC2 then (0, 0, 0)
  else if a < 0xE0 then (1, 0x80, 0xBF)
  else if a = 0xE0 then (2, 0xA0, 0xBF)
  else if a = 0xED then (2, 0x80, 0x9F)
  else if a < 0xF0 then (2, 0x80, 0xBF)
  else if a = 0xF0 then (3, 0x90, 0xBF)
  else if a < 0xF4 then (3, 0x80, 0xBF)
  else if a = 0xF4 then (3, 0x80, 0x8F)
  else (0, 0, 0)

/-- How many of the bytes to come continue a character. -/
def continuing : Nat → Nat → Nat → List UInt8 → Nat
  | 0, _, _, _ | _ + 1, _, _, [] => 0
  | count + 1, low, high, b :: rest =>
    if low ≤ b.toNat ∧ b.toNat ≤ high then continuing count 0x80 0xBF rest + 1 else 0

def nodeRune (a : UInt8) (rest : List UInt8) : Char × Nat :=
  if a.toNat < 0x80 ∨ (decodeRune a rest).2 ≠ 0 then decodeRune a rest
  else
    let (count, low, high) := leadRange a.toNat
    ('�', continuing count low high rest)

def nodeTextFrom : Nat → List UInt8 → List Char
  | _, [] => []
  | skip + 1, _ :: rest => nodeTextFrom skip rest
  | 0, a :: rest => (nodeRune a rest).1 :: nodeTextFrom (nodeRune a rest).2 rest

/-- `Buffer.from(bytes).toString("utf8")` -/
def nodeText (bytes : List UInt8) : List Char := nodeTextFrom 0 bytes

theorem nodeTextFrom_length (tail rest : List UInt8) :
    nodeTextFrom tail.length (tail ++ rest) = nodeTextFrom 0 rest := by
  induction tail with
  | nil => rfl
  | cons b tail ih => exact ih

theorem nodeTextFrom_utf8EncodeChar (c : Char) (rest : List UInt8) :
    nodeTextFrom 0 (String.utf8EncodeChar c ++ rest) = c :: nodeTextFrom 0 rest := by
  obtain ⟨a, tail, hencode, hdecode, hascii⟩ := decodeRune_utf8EncodeChar c rest
  have hrune : nodeRune a (tail ++ rest) = (c, tail.length) := by
    rw [nodeRune, if_pos, hdecode]
    rw [hdecode]
    by_cases htail : tail = []
    · exact .inl (hascii htail)
    · exact .inr (List.length_pos_of_ne_nil htail).ne'
  rw [hencode, List.cons_append, nodeTextFrom, hrune, nodeTextFrom_length]

theorem nodeText_utf8Bytes (text : List Char) : nodeText (utf8Bytes text) = text := by
  induction text with
  | nil => rfl
  | cons c text ih =>
    rw [utf8Bytes, List.flatMap_cons, nodeText, nodeTextFrom_utf8EncodeChar]
    exact congrArg _ ih

/-! ## Numbers -/

def digitsValue (digits : List Char) : Nat := Nat.ofDigitChars 10 digits 0

def exponentValue : List Char → ℤ
  | _ :: '-' :: digits => -digitsValue digits
  | _ :: '+' :: digits => digitsValue digits
  | _ :: digits => digitsValue digits
  | [] => 0

/-- What follows the digits of an integer: those of the fraction, and the exponent. -/
def fractionParts : List Char → List Char × List Char
  | '.' :: rest => (rest.takeWhile Char.isDigit, rest.dropWhile Char.isDigit)
  | rest => ([], rest)

def magnitudeValue (literal : List Char) : ℚ :=
  let (fraction, exponent) := fractionParts (literal.dropWhile Char.isDigit)
  digitsValue (literal.takeWhile Char.isDigit ++ fraction) * 10 ^ (exponentValue exponent - fraction.length)

def literalValue : List Char → ℚ
  | '-' :: literal => -magnitudeValue literal
  | literal => magnitudeValue literal

/-- A number that is no double stands for infinity. -/
def infinity : ℚ := 2 ^ 1024

def nodeNumber (literal : List Char) : ℚ :=
  match Binary64.round (literalValue literal) with
  | some x => x
  | none => if literalValue literal < 0 then -infinity else infinity

theorem nodeNumber_of_round {literal : List Char} {x : ℚ} (h : Binary64.round (literalValue literal) = some x) :
    nodeNumber literal = x := by
  unfold nodeNumber
  split
  · rename_i y hy
    rw [h] at hy
    exact (Option.some.inj hy).symm
  · rename_i hnone
    rw [h] at hnone
    cases hnone

/-! ## Documents -/

section
variable {S N : Type} [DecidableEq S]

def setMember (key : S) (value : Json S N) : List (S × Json S N) → List (S × Json S N)
  | [] => [(key, value)]
  | member :: rest => if member.1 = key then (key, value) :: rest else member :: setMember key value rest

/-- One member of each name: the place of the first, the value of the last. -/
def lastMembers (members : List (S × Json S N)) : List (S × Json S N) :=
  members.foldl (fun earlier member => setMember member.1 member.2 earlier) []

mutual
def distinctKeys : Json S N → Json S N
  | .null => .null
  | .bool value => .bool value
  | .num value => .num value
  | .str value => .str value
  | .arr items => .arr (distinctItems items)
  | .obj members => .obj (lastMembers (distinctValues members))

def distinctItems : List (Json S N) → List (Json S N)
  | [] => []
  | item :: rest => distinctKeys item :: distinctItems rest

def distinctValues : List (S × Json S N) → List (S × Json S N)
  | [] => []
  | (key, value) :: rest => (key, distinctKeys value) :: distinctValues rest
end

theorem setMember_new {key : S} {value : Json S N} {members : List (S × Json S N)}
    (h : key ∉ members.map Prod.fst) : setMember key value members = members ++ [(key, value)] := by
  induction members with
  | nil => rfl
  | cons member rest ih =>
    rw [List.map_cons, List.mem_cons, not_or] at h
    rw [setMember, if_neg (Ne.symm h.1), ih h.2, List.cons_append]

theorem lastMembers_of_nodup {members : List (S × Json S N)} (h : (members.map Prod.fst).Nodup) :
    lastMembers members = members := by
  induction members using List.reverseRecOn with
  | nil => rfl
  | append_singleton members member ih =>
    rw [List.map_append, List.map_singleton, List.nodup_append] at h
    have hnew : member.1 ∉ members.map Prod.fst := by
      intro hmem
      exact h.2.2 _ hmem _ (List.mem_singleton_self _) rfl
    have hfront : members.foldl (fun earlier member => setMember member.1 member.2 earlier) [] = members :=
      ih h.1
    rw [lastMembers, List.foldl_append, hfront]
    exact setMember_new hnew

end

def nodeString (text : List Char) : Option (String × List Char) :=
  (jsRead text).map fun (units, rest) => (String.ofList (scalars units), rest)

def nodeNumeral (text : List Char) : Option (ℚ × List Char) :=
  (rawNumber text).map fun (literal, rest) => (nodeNumber literal, rest)

/-- `JSON.parse`, with U+FFFD for a surrogate on its own. -/
def jsonParse (text : List Char) : Option (Json String ℚ) :=
  (parseDocument nodeString nodeNumeral text).map distinctKeys

def GoValue.node (value : GoValue) : Json String ℚ :=
  distinctKeys (value.map id fun number => nodeNumber number.text)

theorem distinctValues_eq_map {S N : Type} [DecidableEq S] (members : List (S × Json S N)) :
    distinctValues members = members.map fun member => (member.1, distinctKeys member.2) := by
  induction members with
  | nil => rfl
  | cons member rest ih => rw [distinctValues, ih, List.map_cons]

theorem node_obj {members : List (String × GoValue)} (h : (members.map Prod.fst).Nodup) :
    GoValue.node (.obj members) = .obj (members.map fun member => (member.1, GoValue.node member.2)) := by
  rw [GoValue.node, Json.map, mapMembers_eq_map, distinctKeys, distinctValues_eq_map, List.map_map,
    lastMembers_of_nodup]
  · rfl
  · rw [List.map_map]
    exact h

theorem nodeString_goLiteral (s : String) (rest : List Char) :
    nodeString (goLiteral s ++ '"' :: rest) = some (s, rest) := by
  have hscalars : scalars (utf16 s.toList) = s.toList := by
    rw [scalars, codePoints_utf16, List.map_map]
    exact List.map_id _
  rw [nodeString, goLiteral, jsRead_goEscape, Option.map_some]
  simp only [hscalars, String.ofList_toList]

theorem jsonParse_marshal (value : GoValue) : jsonParse (marshal value) = some (GoValue.node value) := by
  have hread : parseDocument nodeString nodeNumeral (marshal value) =
      some (value.map id fun number => nodeNumber number.text) := by
    refine parseDocument_write ?_ ?_ value
    · intro s
      refine ⟨goLiteral s ++ ['"'], rfl, ?_⟩
      intro rest
      rw [List.append_assoc]
      exact nodeString_goLiteral s rest
    · intro number
      refine ⟨number.starts, ?_⟩
      intro rest fuel hrest
      have hscans := number.scans rest hrest
      obtain ⟨c, tail, htext, hhead⟩ := rawNumber_head hscans
      rw [htext] at hscans ⊢
      refine parseValue_number hhead ?_ fuel
      rw [nodeNumeral, hscans]
      rfl
  rw [jsonParse, hread, Option.map_some, GoValue.node]

theorem literalValue_decimal (n : Nat) : literalValue (decimalLiteral n).text = n := by
  have hall : ∀ d ∈ Nat.toDigits 10 n, d.isDigit = true := by
    intro d hd
    exact Nat.isDigit_of_mem_toDigits (by omega) (by omega) hd
  obtain ⟨htake, hdrop⟩ := @takeWhile_append_delimited _ [] hall (by simp)
  rw [List.append_nil] at htake hdrop
  have hvalue : digitsValue (Nat.toDigits 10 n) = n := Nat.ofDigitChars_ten_toDigits
  obtain ⟨c, tail, hdigits, -⟩ := toDigits_head n
  have hsign : literalValue (Nat.toDigits 10 n) = magnitudeValue (Nat.toDigits 10 n) := by
    have hc : c.isDigit = true := hall c (hdigits ▸ List.mem_cons_self)
    rw [hdigits, literalValue]
    intro literal heq
    rw [(List.cons.inj heq).1] at hc
    cases hc
  rw [decimalLiteral, hsign, magnitudeValue, hdrop, htake]
  simp [fractionParts, exponentValue, hvalue]

/-! ## No line ends -/

theorem digit_printable {c : Char} (h : c.isDigit = true) : 0x20 ≤ c.toNat := by
  simp only [Char.isDigit, Bool.and_eq_true, decide_eq_true_eq, UInt32.le_iff_toNat_le] at h
  exact le_trans (by decide) h.1

theorem rawDigits_printable {text literal rest : List Char} (h : rawDigits text = some (literal, rest)) :
    ∀ c ∈ literal, 0x20 ≤ c.toNat := by
  unfold rawDigits at h
  split at h
  · cases h
  · cases h
    intro c hc
    exact digit_printable (List.all_eq_true.mp List.all_takeWhile c hc)

theorem rawMagnitude_printable {text literal rest : List Char} (h : rawMagnitude text = some (literal, rest)) :
    ∀ c ∈ literal, 0x20 ≤ c.toNat := by
  rw [rawMagnitude] at h
  obtain ⟨⟨integer, afterInteger⟩, hinteger, h⟩ := Option.bind_eq_some_iff.mp h
  obtain ⟨⟨fraction, afterFraction⟩, hfraction, h⟩ := Option.bind_eq_some_iff.mp h
  obtain ⟨⟨exponent, afterExponent⟩, hexponent, h⟩ := Option.bind_eq_some_iff.mp h
  cases h
  have hintegers : ∀ c ∈ integer, 0x20 ≤ c.toNat := by
    unfold rawInteger at hinteger
    split at hinteger
    · cases hinteger
      simp
    · exact rawDigits_printable hinteger
  have hfractions : ∀ c ∈ fraction, 0x20 ≤ c.toNat := by
    unfold rawFraction at hfraction
    split at hfraction
    · obtain ⟨⟨digits, tail⟩, hdigits, heq⟩ := Option.map_eq_some_iff.mp hfraction
      cases heq
      have hall := rawDigits_printable hdigits
      simpa using hall
    · cases hfraction
      simp
  have hexponents : ∀ c ∈ exponent, 0x20 ≤ c.toNat := by
    unfold rawExponent at hexponent
    split at hexponent
    · cases hexponent
      simp
    · split at hexponent
      · rename_i e tail he
        obtain ⟨⟨digits, rest⟩, hdigits, heq⟩ := Option.map_eq_some_iff.mp hexponent
        cases heq
        have hall := rawDigits_printable hdigits
        have hsign : ∀ c ∈ (rawSign tail).1, 0x20 ≤ c.toNat := by
          unfold rawSign
          split <;> simp
        have hmark : 0x20 ≤ e.toNat := by
          rcases he with rfl | rfl <;> decide
        intro c hc
        simp only [List.cons_append, List.mem_cons, List.mem_append] at hc
        rcases hc with rfl | hc | hc
        · exact hmark
        · exact hsign c hc
        · exact hall c hc
      · cases hexponent
        simp
  intro c hc
  simp only [List.mem_append] at hc
  rcases hc with (hc | hc) | hc
  · exact hintegers c hc
  · exact hfractions c hc
  · exact hexponents c hc

theorem rawNumber_printable {text literal rest : List Char} (h : rawNumber text = some (literal, rest)) :
    ∀ c ∈ literal, 0x20 ≤ c.toNat := by
  unfold rawNumber at h
  split at h
  · obtain ⟨⟨magnitude, tail⟩, hmagnitude, heq⟩ := Option.map_eq_some_iff.mp h
    cases heq
    have hall := rawMagnitude_printable hmagnitude
    simpa using hall
  · exact rawMagnitude_printable h

theorem marshal_printable (value : GoValue) : ∀ c ∈ marshal value, 0x20 ≤ c.toNat := by
  refine forall_mem_write ?_ ?_ (fun c hc => hc.1) value
  · intro s c hc
    simp only [goQuote, List.cons_append, List.mem_cons, List.mem_append, List.mem_flatMap,
      List.not_mem_nil, or_false] at hc
    rcases hc with rfl | ⟨d, -, hc⟩ | rfl
    · decide
    · rcases mem_goEscapeChar hc with hascii | ⟨rfl, hprint, -⟩
      · exact hascii.1
      · exact hprint
    · decide
  · intro number
    have hscans := number.scans [] (by simp [Delimited])
    exact rawNumber_printable hscans

end JsonText
