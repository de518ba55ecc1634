import MailIndex.Store.Keyed

namespace MailIndex

namespace KeyedStore

def magic : Bytes := Bytes.ofAscii "mail index 1\n"

def chunk (bytes : Bytes) : Bytes := Bytes.bigEndian 8 bytes.length ++ bytes

def toImage (s : KeyedStore) : Bytes :=
  magic ++ s.cells.entries.flatMap fun e => chunk e.1 ++ chunk e.2

def takeChunk? (bytes : Bytes) : Option (Bytes × Bytes) :=
  let size := Bytes.toNatBE (bytes.take 8)
  let rest := bytes.drop 8
  if bytes.length < 8 ∨ rest.length < size then none else some (rest.take size, rest.drop size)

def addCells (s : KeyedStore) (image : Bytes) : Option KeyedStore :=
  if image = [] then some s
  else match takeChunk? image with
    | none => none
    | some (key, rest) =>
      match takeChunk? rest with
      | none => none
      | some (value, rest) =>
        if rest.length < image.length then addCells ⟨s.cells.insert key value⟩ rest else none
  termination_by image.length

/-- The store in a file. An empty file is an empty store; any other file must be an image. -/
def ofImage? (image : Bytes) : Option KeyedStore :=
  if image = [] then some ∅
  else if magic.isPrefixOf image then addCells ∅ (image.drop magic.length)
  else none

end KeyedStore

end MailIndex
