import LivepeerTranscode.Shared.JsonString

/-!
# Query strings in Go

`url.QueryEscape`, `url.QueryUnescape` and `url.ParseQuery`. Escaping works on bytes and writes
ASCII; reading goes through the text and gives bytes back. A query of one escaped pair is read
as that pair.
-/

namespace GoUrl
open JsonText
set_option autoImplicit false

def unreserved (n : Nat) : Bool :=
  (48 ≤ n && n ≤ 57) || (65 ≤ n && n ≤ 90) || (97 ≤ n && n ≤ 122) ||
    n == 45 || n == 46 || n == 95 || n == 126

def upperHex (d : Nat) : Char := if d < 10 then Char.ofNat (48 + d) else Char.ofNat (55 + d)

def escapeByte (b : UInt8) : List Char :=
  if unreserved b.toNat then [Char.ofNat b.toNat]
  else if b.toNat = 0x20 then ['+']
  else ['%', upperHex (b.toNat / 16), upperHex (b.toNat % 16)]

def queryEscape (bytes : List UInt8) : List Char := bytes.flatMap escapeByte

/-- `url.PathEscape` -/
def pathEscape (bytes : List UInt8) : List Char :=
  bytes.flatMap fun b =>
    if unreserved b.toNat || b.toNat ∈ [36, 38, 43, 58, 61, 64] then [Char.ofNat b.toNat]
    else ['%', upperHex (b.toNat / 16), upperHex (b.toNat % 16)]

def queryUnescape : List Char → Option (List UInt8)
  | [] => some []
  | c :: rest =>
    if c = '%' then
      match rest with
      | high :: low :: more =>
        match hexValue high, hexValue low with
        | some h, some l => (queryUnescape more).map (UInt8.ofNat (16 * h + l) :: ·)
        | _, _ => none
      | _ => none
    else if c = '+' then (queryUnescape rest).map (0x20 :: ·)
    else (queryUnescape rest).map (String.utf8EncodeChar c ++ ·)

/-- `strings.Split` by one character. -/
def pieces (sep : Char) : List Char → List (List Char)
  | [] => [[]]
  | c :: rest =>
    if c = sep then [] :: pieces sep rest
    else match pieces sep rest with
      | [] => [[c]]
      | piece :: more => (c :: piece) :: more

/-- The two sides of the first separator; without one the text and nothing. -/
def cut (sep : Char) (text : List Char) : List Char × List Char :=
  (text.takeWhile (· != sep), (text.dropWhile (· != sep)).tail)

def parsePair (piece : List Char) : Option (List UInt8 × List UInt8) :=
  if ';' ∈ piece then none
  else do
    let key ← queryUnescape (cut '=' piece).1
    let value ← queryUnescape (cut '=' piece).2
    return (key, value)

/-- `url.ParseQuery`: the pairs in their order, or nothing where it returns an error. -/
def parseQuery (text : List Char) : Option (List (List UInt8 × List UInt8)) :=
  ((pieces '&' text).filter fun piece => !piece.isEmpty).mapM parsePair

end GoUrl
