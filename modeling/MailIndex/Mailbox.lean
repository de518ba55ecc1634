import MailIndex.Order
import MailIndex.Text.Blank
import MailIndex.Text.Printable
import MailIndex.Text.Utf8

namespace MailIndex

structure MailboxId where
  bytes : Bytes
  length_bytes : bytes.length = 16
  deriving DecidableEq, Repr

inductive MailboxError
  | notHex (text : String) (fault : Bytes.HexError)
  | wrongLength (text : String)
  deriving DecidableEq, Repr

def Bytes.HexError.message : Bytes.HexError → String
  | .oddLength => "Odd number of digits"
  | .notADigit byte index =>
    s!"Invalid character {Text.quotedChar (Char.ofNat byte.toNat)} at position {index}"

def MailboxError.message : MailboxError → String
  | .notHex text fault => s!"Invalid mailbox id '{text}': {fault.message}"
  | .wrongLength text => s!"Mailbox id '{text}' must be exactly 16 bytes (32 hex digits)"

namespace MailboxId

def ofBytes? (bytes : Bytes) : Option MailboxId :=
  if h : bytes.length = 16 then some ⟨bytes, h⟩ else none

def compact (text : String) : Bytes :=
  Text.encode ((Text.trim text.toList).filter (· != '-'))

def parse (text : String) : Except MailboxError MailboxId :=
  match Bytes.ofHex (compact text) with
  | .error fault => .error (.notHex text fault)
  | .ok bytes =>
    match ofBytes? bytes with
    | some m => .ok m
    | none => .error (.wrongLength text)

def toChars (m : MailboxId) : List Char :=
  let h := m.bytes.toHexChars
  h.take 8 ++ '-' :: (h.drop 8).take 4 ++ '-' :: (h.drop 12).take 4 ++ '-' :: (h.drop 16).take 4
    ++ '-' :: h.drop 20

def toString (m : MailboxId) : String := String.ofList m.toChars

instance : ToString MailboxId := ⟨toString⟩

theorem length_bigEndian (w n : Nat) : (Bytes.bigEndian w n).length = w := by
  induction w with
  | zero => rfl
  | succ w ih => simp [Bytes.bigEndian, ih]

def ofNat (n : Nat) : MailboxId := ⟨Bytes.bigEndian 16 n, length_bigEndian 16 n⟩

def toNat (m : MailboxId) : Nat := Bytes.toNatBE m.bytes

instance : LT MailboxId := ⟨fun a b => a.bytes < b.bytes⟩

instance : DecidableLT MailboxId := fun a b => inferInstanceAs (Decidable (a.bytes < b.bytes))

instance : StrictTotal MailboxId :=
  .ofKey MailboxId.bytes (fun _ _ => Iff.rfl) fun ⟨_, _⟩ ⟨_, _⟩ h => by cases h; rfl

end MailboxId

end MailIndex
