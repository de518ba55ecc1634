import MailIndex.Bytes

namespace MailIndex.Text

def encode (s : List Char) : Bytes := s.flatMap String.utf8EncodeChar

def encodeString (s : String) : Bytes := encode s.toList

def replacementChar : Char := '\uFFFD'

def isContinuation (b : UInt8) : Bool := 0x80 ≤ b && b ≤ 0xBF

def secondBounds (lead : UInt8) : UInt8 × UInt8 :=
  if lead = 0xE0 then (0xA0, 0xBF)
  else if lead = 0xED then (0x80, 0x9F)
  else if lead = 0xF0 then (0x90, 0xBF)
  else if lead = 0xF4 then (0x80, 0x8F)
  else (0x80, 0xBF)

def tailLength (lead : UInt8) : Option Nat :=
  if lead ≤ 0x7F then some 0
  else if 0xC2 ≤ lead && lead ≤ 0xDF then some 1
  else if 0xE0 ≤ lead && lead ≤ 0xEF then some 2
  else if 0xF0 ≤ lead && lead ≤ 0xF4 then some 3
  else none

def tailRun (lead : UInt8) (want : Nat) (rest : Bytes) : Nat :=
  match want, rest with
  | 0, _ => 0
  | _, [] => 0
  | n + 1, b :: rest =>
    let (lo, hi) := secondBounds lead
    if lo ≤ b && b ≤ hi then 1 + ((rest.take n).takeWhile isContinuation).length else 0

def leadBits (lead : UInt8) (tail : Nat) : Nat :=
  match tail with
  | 0 => lead.toNat
  | 1 => lead.toNat % 32
  | 2 => lead.toNat % 16
  | _ => lead.toNat % 8

/-- One character, or one longest ill-formed run, and the octets it takes after the first. -/
def decodeStep (lead : UInt8) (rest : Bytes) : Option Char × Nat :=
  match tailLength lead with
  | none => (none, 0)
  | some want =>
    let run := tailRun lead want rest
    if run = want then
      (some (Char.ofNat ((rest.take want).foldl (fun n b => 64 * n + b.toNat % 64)
        (leadBits lead want))), want)
    else (none, run)

def decodeLossy : Bytes → List Char
  | [] => []
  | lead :: rest =>
    let step := decodeStep lead rest
    step.1.getD replacementChar :: decodeLossy (rest.drop step.2)
  termination_by bytes => bytes.length
  decreasing_by simp only [List.length_drop, List.length_cons]; omega

def decode? : Bytes → Option (List Char)
  | [] => some []
  | lead :: rest =>
    match decodeStep lead rest with
    | (none, _) => none
    | (some c, n) => (decode? (rest.drop n)).map (c :: ·)
  termination_by bytes => bytes.length
  decreasing_by simp only [List.length_drop, List.length_cons]; omega

end MailIndex.Text
