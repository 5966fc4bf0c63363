import Mathlib

/-!
# JSON documents and their compact text

Documents are polymorphic in the strings and the numbers they hold, since two
languages need not agree on either. A writer is given by how it writes a string
and how it writes a number; members are written in the order they stand in.
-/

namespace JsonText
set_option autoImplicit false

inductive Json (S N : Type) : Type where
  | null : Json S N
  | bool (value : Bool) : Json S N
  | num (value : N) : Json S N
  | str (value : S) : Json S N
  | arr (items : List (Json S N)) : Json S N
  | obj (members : List (S × Json S N)) : Json S N

section Write
variable {S N : Type} (quote : S → List Char) (number : N → List Char)

mutual
def write : Json S N → List Char
  | .null => ['n', 'u', 'l', 'l']
  | .bool true => ['t', 'r', 'u', 'e']
  | .bool false => ['f', 'a', 'l', 's', 'e']
  | .num n => number n
  | .str s => quote s
  | .arr items => '[' :: writeItems items ++ [']']
  | .obj members => '\x7b' :: writeMembers members ++ ['\x7d']

def writeItems : List (Json S N) → List Char
  | [] => []
  | [item] => write item
  | item :: next :: rest => write item ++ ',' :: writeItems (next :: rest)

def writeMembers : List (S × Json S N) → List Char
  | [] => []
  | [(key, value)] => quote key ++ ':' :: write value
  | (key, value) :: next :: rest =>
    quote key ++ ':' :: write value ++ ',' :: writeMembers (next :: rest)
end

end Write

/-- The escape `\uXXXX` with lower-case digits, as both encoders write it. -/
def unicodeEscape (code : Nat) : List Char :=
  ['\\', 'u', Nat.digitChar (code / 4096 % 16), Nat.digitChar (code / 256 % 16),
    Nat.digitChar (code / 16 % 16), Nat.digitChar (code % 16)]

/-- The escapes every JSON string needs, with the short forms where there is one. -/
def escapeChar (c : Char) : List Char :=
  match c.toNat with
  | 0x22 => ['\\', '"']
  | 0x5C => ['\\', '\\']
  | 0x08 => ['\\', 'b']
  | 0x0C => ['\\', 'f']
  | 0x0A => ['\\', 'n']
  | 0x0D => ['\\', 'r']
  | 0x09 => ['\\', 't']
  | code => if code < 0x20 then unicodeEscape code else [c]

/-- How Go's `encoding/json` writes one character. The line separators are escaped
whatever the options are; `<`, `>` and `&` only when HTML escaping is on. -/
def goEscapeChar (html : Bool) (c : Char) : List Char :=
  if c.toNat == 0x2028 || c.toNat == 0x2029 then unicodeEscape c.toNat
  else if html && (c.toNat == 0x3C || c.toNat == 0x3E || c.toNat == 0x26) then unicodeEscape c.toNat
  else escapeChar c

def goQuote (html : Bool) (s : String) : List Char :=
  '"' :: s.toList.flatMap (goEscapeChar html) ++ ['"']

/-- The text `encoding/json` writes for a document whose object members already stand
in the order the encoder visits them; a number is held as its literal. -/
def goWrite (html : Bool) (document : Json String String) : List Char :=
  write (goQuote html) String.toList document

theorem toDigits_head (n : Nat) : ∃ c rest, Nat.toDigits 10 n = c :: rest ∧ (c = '0' → rest = [] ∧ n = 0) := by
  induction n using Nat.strongRecOn with
  | ind n ih =>
    rw [Nat.toDigits_eq_if (by omega)]
    by_cases hsmall : n < 10
    · rw [if_pos hsmall]
      refine ⟨n.digitChar, [], rfl, ?_⟩
      intro hzero
      have hall : ∀ m < 10, Nat.digitChar m = '0' → m = 0 := by decide
      exact ⟨rfl, hall n hsmall hzero⟩
    · rw [if_neg hsmall]
      obtain ⟨c, rest, hdigits, hhead⟩ := ih (n / 10) (by omega)
      refine ⟨c, rest ++ [(n % 10).digitChar], by rw [hdigits]; rfl, ?_⟩
      intro hzero
      have hten := (hhead hzero).2
      omega

def utf8Bytes (text : List Char) : List UInt8 := text.flatMap String.utf8EncodeChar

end JsonText
