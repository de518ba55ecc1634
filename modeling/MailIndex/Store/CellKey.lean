import MailIndex.Store.Basic

namespace MailIndex

namespace CellKey

/-- A zero is followed by a byte that no terminator has, so that order and common beginnings are
kept. -/
def escape (bytes : Bytes) : Bytes :=
  bytes.flatMap fun b => if b = 0 then [0, 0xFF] else [b]

def terminator : Bytes := [0, 1]

def encode (a : CellAddress) : Bytes :=
  escape a.family ++ terminator ++ escape a.row ++ terminator ++ a.qualifier

def scanStart (family start : Bytes) : Bytes := escape family ++ terminator ++ escape start

def takePart : Bytes → Option (Bytes × Bytes)
  | [] => none
  | b :: rest =>
    if b = 0 then
      match rest with
      | [] => none
      | mark :: rest =>
        if mark = 0xFF then (takePart rest).map fun (part, after) => (0 :: part, after)
        else if mark = 1 then some ([], rest)
        else none
    else (takePart rest).map fun (part, after) => (b :: part, after)

def decode (key : Bytes) : Option CellAddress := do
  let (family, rest) ← takePart key
  let (row, qualifier) ← takePart rest
  return ⟨family, row, qualifier⟩

end CellKey

end MailIndex
