import LivepeerTranscode.Shared.Json

/-!
# Validators and texts of the Go runners

What the runners' validators share: a check that returns nil or an error text, the
patterns for identifiers, and the parts of a URL that are looked at.
-/

namespace GoText
open JsonText
set_option autoImplicit false

/-- What a validator returns: nil, or `errors.New` of a text. -/
abbrev Check : Type := Except String Unit

/-- `if bad { return errors.New(text) }` in a validator. -/
def deny (bad : Prop) [Decidable bad] (text : String) : Check :=
  if bad then .error text else .ok ()

@[simp] theorem deny_ok_iff {bad : Prop} [Decidable bad] {text : String} {u : Unit} :
    deny bad text = .ok u ↔ ¬ bad := by
  by_cases h : bad <;> simp [deny, h]

structure ParsedURL where
  scheme : String
  host : String
  hasUser : Bool
  path : String
  rawQuery : String
  fragment : String

def goBytes (s : String) : List UInt8 := utf8Bytes s.toList

/-- `unicode.IsSpace` -/
def isSpace (c : Char) : Bool :=
  let n := c.toNat
  (9 ≤ n && n ≤ 13) || n == 0x20 || n == 0x85 || n == 0xA0 || n == 0x1680 ||
    (0x2000 ≤ n && n ≤ 0x200A) || n == 0x2028 || n == 0x2029 || n == 0x202F || n == 0x205F ||
    n == 0x3000

/-- `strings.TrimSpace(s) == ""` -/
def blank (s : String) : Bool := s.toList.all isSpace

def isAlphaNum (c : Char) : Bool :=
  ('A' ≤ c && c ≤ 'Z') || ('a' ≤ c && c ≤ 'z') || ('0' ≤ c && c ≤ '9')

/-- `^[A-Za-z0-9][A-Za-z0-9._:-]{0,127}$` -/
def opaqueIDPattern (s : String) : Bool :=
  match s.toList with
  | [] => false
  | c :: rest =>
    isAlphaNum c && rest.all (fun d => isAlphaNum d || d == '.' || d == '_' || d == ':' || d == '-') &&
      decide (rest.length ≤ 127)

/-- `^[0-9a-f]{64}$` -/
def workIDPattern (s : String) : Bool :=
  s.toList.all (fun c => ('0' ≤ c && c ≤ '9') || ('a' ≤ c && c ≤ 'f')) && decide (s.toList.length = 64)

end GoText
