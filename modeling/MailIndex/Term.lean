import MailIndex.DateBucket
import MailIndex.Text.Uppercase
import MailIndex.Text.Utf8

namespace MailIndex

structure Term where
  bytes : Bytes
  deriving DecidableEq, Repr

namespace Term

def empty : Term := ⟨[]⟩

def ofChars (s : List Char) : Term := ⟨Text.encode (Text.upper s)⟩

def ofText (s : String) : Term := ofChars s.toList

/-- The sign bit is flipped, so that octet order is the order of time. -/
def sentDate (t : Millis) : Term := ⟨Bytes.bigEndian 8 (t.toInt + 0x8000000000000000).toNat⟩

def asSentDate? (term : Term) : Option Millis :=
  if term.bytes.length = 8 then
    some (Int64.ofInt ((Bytes.toNatBE term.bytes : Int) - 0x8000000000000000))
  else none

def isEmpty (term : Term) : Bool := term.bytes.isEmpty

def toString (term : Term) : String := String.ofList (Text.decodeLossy term.bytes)

instance : ToString Term := ⟨toString⟩

end Term

end MailIndex
