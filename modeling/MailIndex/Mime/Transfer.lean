import MailIndex.Bytes

namespace MailIndex.Mime

def isSpace (b : UInt8) : Bool := b == 32 || b == 9 || b == 10 || b == 12 || b == 13

def isBlankByte (b : UInt8) : Bool := b == 32 || b == 9

namespace Base64

def value? (b : UInt8) : Option Nat :=
  let n := b.toNat
  if 65 ≤ n ∧ n ≤ 90 then some (n - 65)
  else if 97 ≤ n ∧ n ≤ 122 then some (n - 71)
  else if 48 ≤ n ∧ n ≤ 57 then some (n + 4)
  else if n = 43 then some 62
  else if n = 47 then some 63
  else none

def padded : List Nat → Bytes
  | [a] => [UInt8.ofNat (4 * a)]
  | [a, b] => [UInt8.ofNat (4 * a + b / 16)]
  | [a, b, c] => [UInt8.ofNat (4 * a + b / 16), UInt8.ofNat (16 * b + c / 4)]
  | _ => []

def whole (a b c d : Nat) : Bytes :=
  [UInt8.ofNat (4 * a + b / 16), UInt8.ofNat (16 * b + c / 4), UInt8.ofNat (64 * c + d)]

def push (group : List Nat) (v : Nat) : Bytes × List Nat :=
  match group with
  | [a, b, c] => (whole a b c v, [])
  | _ => ([], group ++ [v])

def isPassedOver (b : UInt8) : Bool := b == 32 || b == 9 || b == 10 || b == 13 || b == 45

structure Reader where
  out : Bytes := []
  group : List Nat := []

def Reader.step (r : Reader) (b : UInt8) : Option Reader :=
  match value? b with
  | some v => some ⟨(push r.group v).1.reverse ++ r.out, (push r.group v).2⟩
  | none =>
    if b = 61 then some ⟨(padded r.group).reverse ++ r.out, []⟩
    else if isPassedOver b then some r
    else none

def decode (body : Bytes) : Option Bytes :=
  (body.foldlM Reader.step {}).map (·.out.reverse)

end Base64

namespace QuotedPrintable

inductive Escape
  | outside
  | afterEquals
  | afterDigit (high : Nat)

structure Reader where
  out : Bytes := []
  escape : Escape := .outside
  blanks : Nat := 0
  lineEnd : Bytes := [10]
  last : UInt8 := 0

namespace Reader

def breakLine (r : Reader) : Reader :=
  match r.escape with
  | .afterEquals => { r with escape := .outside, blanks := 0 }
  | _ => { r with out := r.lineEnd ++ r.out.drop r.blanks, blanks := 0 }

/-- An escape that is none is kept as it stands, but no second one may begin inside it. -/
def take (r : Reader) (b : UInt8) : Option Reader :=
  match r.escape with
  | .outside =>
    if b = 61 then some { r with escape := .afterEquals }
    else some { r with out := b :: r.out, blanks := if isSpace b then r.blanks + 1 else 0 }
  | .afterEquals =>
    if b = 61 then none
    else match Bytes.hexValue? b with
      | some h => some { r with escape := .afterDigit h }
      | none =>
        if isSpace b then some r
        else some { r with out := b :: 61 :: r.out, escape := .outside, blanks := 0 }
  | .afterDigit h =>
    if b = 61 then none
    else match Bytes.hexValue? b with
      | some l =>
        some { r with out := UInt8.ofNat (16 * h + l) :: r.out, escape := .outside, blanks := 0 }
      | none =>
        some { r with out := b :: r.last :: 61 :: r.out, escape := .outside, blanks := 0 }

def step (r : Reader) (b : UInt8) : Option Reader :=
  let next :=
    if b = 10 then some r.breakLine
    else if b = 13 then some { r with lineEnd := [10, 13] }
    else r.take b
  next.map fun r => { r with last := b }

end Reader

def decode (body : Bytes) : Option Bytes :=
  (body.foldlM Reader.step {}).map (·.out.reverse)

/-- The content of a part before its delimiter. The first hyphen of the delimiter ends what is
pending, and goes again together with the line end before it. -/
def decodePart (body : Bytes) : Option Bytes :=
  ((body ++ [45]).foldlM Reader.step {}).map fun (r : Reader) =>
    let extra := if body.getLast? = some 10 then r.lineEnd.length + 1 else 1
    (if r.out.length < extra then r.out else r.out.drop extra).reverse

end QuotedPrintable

inductive TransferEncoding
  | identity
  | base64
  | quotedPrintable
  deriving DecidableEq, Repr

namespace TransferEncoding

def ofName (name : Bytes) : TransferEncoding :=
  if name.lowerAscii = Bytes.ofAscii "base64" then .base64
  else if name.lowerAscii = Bytes.ofAscii "quoted-printable" then .quotedPrintable
  else .identity

def decode (e : TransferEncoding) (body : Bytes) : Option Bytes :=
  match e with
  | .identity => some body
  | .base64 => Base64.decode body
  | .quotedPrintable => QuotedPrintable.decode body

end TransferEncoding

end MailIndex.Mime
