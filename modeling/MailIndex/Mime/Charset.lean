import MailIndex.Text.Utf8

namespace MailIndex.Mime

/-- The two sets that most mail is written in. Octets of any other are read as UTF-8, which is a
limit of this parser. -/
inductive Charset
  | utf8
  | western
  deriving DecidableEq, Repr

namespace Charset

def westernNames : List String :=
  ["us-ascii", "ascii", "us", "iso646-us", "iso-ir-6", "iso_646.irv:1991", "ansi_x3.4-1968",
    "ansi_x3.4-1986", "cp367", "ibm367", "csascii", "iso-8859-1", "iso_8859-1", "iso8859-1",
    "iso88591", "iso_8859-1:1987", "iso-ir-100", "latin1", "l1", "cp819", "ibm819", "csisolatin1",
    "windows-1252", "cp1252", "x-cp1252", "cswindows1252"]

def ofName (name : Bytes) : Charset :=
  if westernNames.any fun n => Bytes.ofAscii n = name.lowerAscii then .western else .utf8

def westernUpper : List Nat := [
  0x20AC, 0x81, 0x201A, 0x192, 0x201E, 0x2026, 0x2020, 0x2021, 0x2C6, 0x2030, 0x160, 0x2039,
  0x152, 0x8D, 0x17D, 0x8F, 0x90, 0x2018, 0x2019, 0x201C, 0x201D, 0x2022, 0x2013, 0x2014, 0x2DC,
  0x2122, 0x161, 0x203A, 0x153, 0x9D, 0x17E, 0x178]

def westernChar (b : UInt8) : Char :=
  if 0x80 ≤ b ∧ b ≤ 0x9F then Char.ofNat (westernUpper.getD (b.toNat - 0x80) 0)
  else Char.ofNat b.toNat

def decode (c : Charset) (bytes : Bytes) : List Char :=
  match c with
  | .utf8 => Text.decodeLossy bytes
  | .western => bytes.map westernChar

end Charset

end MailIndex.Mime
