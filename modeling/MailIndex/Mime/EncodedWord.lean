import MailIndex.Mime.Charset
import MailIndex.Mime.Transfer

/-! Encoded words in header fields: `=?charset?Q?text?=` and `=?charset?B?text?=`. -/

namespace MailIndex.Mime.EncodedWord

inductive Escape
  | outside
  | afterEquals
  | afterDigit (high : Nat)

/-- The octets of a Q text up to its closing mark, and how many octets were read; `folding` holds
while the blanks of a fold are passed over. -/
def readQ (escape : Escape) (folding : Bool) : Bytes → Option (Bytes × Nat)
  | [] => none
  | b :: rest =>
    let keep (out : Bytes) (r : Option (Bytes × Nat)) : Option (Bytes × Nat) :=
      r.map fun (bs, n) => (out ++ bs, 1 + n)
    if folding ∧ isBlankByte b then keep [] (readQ escape true rest)
    else if b = 63 then
      if rest.head? = some 61 then some ([], 2) else keep [63] (readQ escape false rest)
    else if b = 95 then keep [32] (readQ escape false rest)
    else if b = 13 then keep [] (readQ escape false rest)
    else if b = 10 then
      if rest.head?.any isBlankByte then keep [] (readQ escape true rest) else none
    else match escape with
      | .outside =>
        if b = 61 then keep [] (readQ .afterEquals false rest)
        else keep [b] (readQ .outside false rest)
      | .afterEquals =>
        (Bytes.hexValue? b).bind fun h => keep [] (readQ (.afterDigit h) false rest)
      | .afterDigit h =>
        (Bytes.hexValue? b).bind fun l =>
          keep [UInt8.ofNat (16 * h + l)] (readQ .outside false rest)

def readB (group : List Nat) : Bytes → Option (Bytes × Nat)
  | [] => none
  | b :: rest =>
    let keep (out : Bytes) (r : Option (Bytes × Nat)) : Option (Bytes × Nat) :=
      r.map fun (bs, n) => (out ++ bs, 1 + n)
    match Base64.value? b with
    | some v => keep (Base64.push group v).1 (readB (Base64.push group v).2 rest)
    | none =>
      if b = 61 then keep (Base64.padded group) (readB [] rest)
      else if b = 63 then if rest.head? = some 61 then some ([], 2) else none
      else if b = 10 then
        if rest.head?.any isBlankByte then keep [] (readB group rest) else none
      else if b = 13 ∨ isBlankByte b then keep [] (readB group rest)
      else none

def withoutLanguage : Bytes → Bytes
  | [] => []
  | b :: rest => b :: rest.takeWhile (· ≠ 42)

def splitCharset (s : Bytes) : Option (Bytes × Bytes) :=
  match s.span (· ≠ 63) with
  | (name, 63 :: rest) =>
    if (withoutLanguage name).length < 2 ∨ 10 ∈ name then none else some (name, rest)
  | _ => none

def read? (s : Bytes) : Option (List Char × Nat) :=
  match s with
  | 63 :: afterMark =>
    match splitCharset afterMark with
    | some (name, method :: 63 :: data) =>
      let body :=
        if method = 81 ∨ method = 113 then readQ .outside false data
        else if method = 66 ∨ method = 98 then readB [] data
        else none
      body.map fun (bytes, n) =>
        ((Charset.ofName (withoutLanguage name)).decode bytes, name.length + 4 + n)
    | _ => none
  | _ => none

end MailIndex.Mime.EncodedWord
