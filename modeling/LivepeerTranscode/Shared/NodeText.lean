import LivepeerTranscode.Shared.JsonString

/-!
# Texts of bytes in Node

`Buffer` to and from text, and the escape of a URL component. Reading hexadecimal digits
stops at the first pair that is not one, as `Buffer.from(text, "hex")` does.
-/

namespace NodeText
open JsonText
set_option autoImplicit false

/-- `Buffer.from(bytes).toString("hex")` -/
def hexDigits (bytes : List UInt8) : List Char :=
  bytes.flatMap fun b => [Nat.digitChar (b.toNat / 16), Nat.digitChar (b.toNat % 16)]

def hexText (bytes : List UInt8) : String := String.ofList (hexDigits bytes)

def readHexDigits : List Char → List UInt8
  | high :: low :: rest =>
    match hexValue high, hexValue low with
    | some h, some l => UInt8.ofNat (16 * h + l) :: readHexDigits rest
    | _, _ => []
  | _ => []

/-- `Buffer.from(text, "hex")` -/
def hexBytes (text : String) : List UInt8 := readHexDigits text.toList

theorem readHexDigits_hexDigits (bytes : List UInt8) : readHexDigits (hexDigits bytes) = bytes := by
  induction bytes with
  | nil => rfl
  | cons b rest ih =>
    have hbyte : b.toNat < 256 := b.toNat_lt
    have hhigh := hexValue_digitChar (d := b.toNat / 16) (by omega)
    have hlow := hexValue_digitChar (d := b.toNat % 16) (by omega)
    have hvalue : UInt8.ofNat (16 * (b.toNat / 16) + b.toNat % 16) = b := by
      rw [Nat.div_add_mod]
      exact UInt8.ofNat_toNat
    simp only [hexDigits, List.flatMap_cons, List.cons_append, List.nil_append, readHexDigits, hhigh,
      hlow, hvalue, List.cons.injEq, true_and]
    exact ih

@[simp] theorem hexBytes_hexText (bytes : List UInt8) : hexBytes (hexText bytes) = bytes := by
  rw [hexBytes, hexText, String.toList_ofList]
  exact readHexDigits_hexDigits bytes

def base64Char (n : Nat) : Char :=
  if n < 26 then Char.ofNat (65 + n)
  else if n < 52 then Char.ofNat (97 + (n - 26))
  else if n < 62 then Char.ofNat (48 + (n - 52))
  else if n = 62 then '+' else '/'

def base64Digits : List UInt8 → List Char
  | [] => []
  | [a] =>
    [base64Char (a.toNat / 4), base64Char (a.toNat % 4 * 16), '=', '=']
  | [a, b] =>
    [base64Char (a.toNat / 4), base64Char (a.toNat % 4 * 16 + b.toNat / 16),
      base64Char (b.toNat % 16 * 4), '=']
  | a :: b :: c :: rest =>
    base64Char (a.toNat / 4) :: base64Char (a.toNat % 4 * 16 + b.toNat / 16) ::
      base64Char (b.toNat % 16 * 4 + c.toNat / 64) :: base64Char (c.toNat % 64) :: base64Digits rest

/-- `Buffer.from(bytes).toString("base64")` -/
def base64Text (bytes : List UInt8) : String := String.ofList (base64Digits bytes)

def unreserved (c : Char) : Bool :=
  c.isAlphanum || ['-', '_', '.', '!', '~', '*', Char.ofNat 39, '(', ')'].contains c

def percentEncoded (b : UInt8) : List Char :=
  ['%', (Nat.digitChar (b.toNat / 16)).toUpper, (Nat.digitChar (b.toNat % 16)).toUpper]

/-- `encodeURIComponent` -/
def encodeURIComponent (text : String) : String :=
  String.ofList (text.toList.flatMap fun c =>
    if unreserved c then [c] else (utf8Bytes [c]).flatMap percentEncoded)

/-- `text.replace(/\/$/, "")` -/
def withoutTrailingSlash (text : String) : String :=
  if text.toList.getLast? = some '/' then String.ofList text.toList.dropLast else text

end NodeText
