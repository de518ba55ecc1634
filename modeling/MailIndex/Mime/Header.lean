import MailIndex.Mime.EncodedWord
import MailIndex.Mime.FieldName

namespace MailIndex.Mime

structure Header where
  name : Bytes
  body : Bytes
  deriving DecidableEq, Repr

namespace Header

def hasName (h : Header) (name : String) : Bool := h.name.lowerAscii = Bytes.ofAscii name

def bodyLength : Bytes → Nat
  | [] => 0
  | b :: rest =>
    if b = 10 then if rest.head?.any isBlankByte then 1 + bodyLength rest else 1
    else 1 + bodyLength rest

/-- A date while it is read. Its parts are day, month, year, hour, minute, second and zone, and
`room` is how many more digits each of them takes; `fresh` holds until something of the part at
hand is there, and `idle` until that counts. -/
structure DateReader where
  part : Nat := 0
  room : List Nat := [2, 2, 4, 2, 2, 2, 4]
  fresh : Bool := true
  idle : Bool := true
  comments : Nat := 0

namespace DateReader

def zonePart : Nat := 6

def moveOn (r : DateReader) : DateReader :=
  if r.fresh ∨ r.idle then r else { r with part := r.part + 1, fresh := true, idle := true }

def step (r : DateReader) (b : UInt8) : DateReader :=
  let c := Char.ofNat b.toNat
  if c.isDigit then
    match r.room[r.part]? with
    | some (n + 1) => { r with room := r.room.set r.part n, fresh := false, idle := false }
    | _ => { r with fresh := false }
  else if c = ':' then if r.part = 3 ∨ r.part = 4 then r.moveOn else r
  else if c = '+' ∨ c = '-' then { r with part := zonePart }
  else if isBlankByte b then r.moveOn
  else if c.isAlpha then { r with fresh := false, idle := r.idle && r.part != 1 }
  else if c = '(' then { r with comments := 1, fresh := true }
  else r

/-- The length of the body of a date field. The name of a zone takes three octets, whatever they
are, so that a shorter one reaches over the line end. -/
def bodyLength (r : DateReader) : Bytes → Nat
  | [] => 0
  | b :: rest =>
    if b = 10 then
      if rest.head?.any isBlankByte then
        1 + bodyLength (if r.comments = 0 then r.moveOn else r) rest
      else 1
    else if r.comments > 0 then
      if b = 40 then 1 + bodyLength { r with comments := r.comments + 1 } rest
      else if b = 41 then 1 + bodyLength { r with comments := r.comments - 1 } rest
      else if b = 92 ∧ rest.head? = some 41 then 2 + bodyLength r (rest.drop 1)
      else 1 + bodyLength r rest
    else if r.part = zonePart ∧ (Char.ofNat b.toNat).isAlpha then
      if rest.length < 2 then 1 + rest.length
      else 3 + bodyLength { r with part := zonePart + 1, fresh := false } (rest.drop 2)
    else 1 + bodyLength (r.step b) rest
  termination_by body => body.length
  decreasing_by all_goals (simp only [List.length_cons, List.length_drop]; omega)

end DateReader

def bodyLengthOf (name body : Bytes) : Nat :=
  if name = Bytes.ofAscii "Date" ∨ name = Bytes.ofAscii "Resent-Date" then
    DateReader.bodyLength {} body
  else bodyLength body

inductive Start
  | name (name : Bytes) (rest : Bytes)
  | blankLine (rest : Bytes)
  | finished

def start (line : Bytes) : Bytes → Start
  | [] => if line.all isSpace then .finished else .name (FieldName.ofWritten line.reverse) []
  | b :: rest =>
    if b = 10 then (if line.all isSpace then .blankLine rest else start [] rest)
    else if b = 58 then
      (if line.all isSpace then start [] rest else .name (FieldName.ofWritten line.reverse) rest)
    else start (b :: line) rest

def Start.rest : Start → Bytes
  | .name _ rest => rest
  | .blankLine rest => rest
  | .finished => []

theorem length_rest_start (line s : Bytes) (h : s ≠ []) :
    (start line s).rest.length < s.length := by
  induction s generalizing line with
  | nil => exact absurd rfl h
  | cons b rest ih =>
    have step (line : Bytes) : (start line rest).rest.length < rest.length + 1 := by
      cases rest with
      | nil => simp only [start]; split <;> simp [Start.rest]
      | cons c more => exact Nat.lt_succ_of_lt (ih line (by simp))
    simp only [start, List.length_cons]
    split
    · split
      · simp [Start.rest]
      · exact step []
    · split
      · split
        · exact step []
        · simp [Start.rest]
      · exact step (b :: line)

def readAll (s : Bytes) : List Header × Option Bytes :=
  if h : s = [] then ([], none)
  else
    match hs : start [] s with
    | .finished => ([], none)
    | .blankLine rest => ([], some rest)
    | .name name rest =>
      have : rest.length < s.length := by simpa [hs, Start.rest] using length_rest_start [] s h
      let n := bodyLengthOf name rest
      let (later, after) := readAll (rest.drop n)
      (⟨name, rest.take n⟩ :: later, after)
  termination_by s.length
  decreasing_by simp only [List.length_drop]; omega

theorem length_readAll {s rest : Bytes} (h : (readAll s).2 = some rest) :
    rest.length < s.length := by
  fun_induction readAll s with
  | case1 => simp at h
  | case2 => simp at h
  | case3 s hne rest' hs =>
    have := length_rest_start [] s hne
    simp only [hs, Start.rest] at this
    cases h
    omega
  | case4 s hne name rest' hs _ n later after hl ih =>
    have := length_rest_start [] s hne
    simp only [hs, Start.rest] at this
    simp only [hl] at ih
    have := ih h
    simp only [List.length_drop] at this
    omega

/-- The last field of a name counts. -/
def find? (headers : List Header) (name : String) : Option Header :=
  headers.reverse.find? (·.hasName name)

end Header

structure TextReader where
  token : Bytes := []
  gap : Bytes := []
  pieces : List (List Char) := []
  afterWord : Bool := true

namespace TextReader

def flush (r : TextReader) : TextReader :=
  if r.token.isEmpty then r
  else
    let text := Text.decodeLossy r.token.reverse
    { token := [], gap := []
      pieces := (if r.pieces.isEmpty then [text] else r.pieces ++ [[' '], text])
      afterWord := false }

def word (r : TextReader) (text : List Char) : TextReader :=
  let r := r.flush
  { r with
    pieces := (if r.afterWord then r.pieces else r.pieces ++ [[' ']]) ++ [text]
    afterWord := true }

def take (r : TextReader) (b : UInt8) : TextReader :=
  if b = 32 ∨ b = 9 ∨ b = 13 then
    if r.token.isEmpty then r else { r with gap := b :: r.gap }
  else { r with token := b :: (r.gap ++ r.token), gap := [] }

def run (r : TextReader) : Bytes → Option (List (List Char))
  | [] => none
  | b :: rest =>
    if b = 10 then
      match rest with
      | [] => some r.flush.pieces
      | c :: more => if c = 32 ∨ c = 9 then run r.flush more else some r.flush.pieces
    else if b = 61 then
      match EncodedWord.read? rest with
      | some (text, n) => run (r.word text) (rest.drop n)
      | none => run (r.take b) rest
    else run (r.take b) rest
  termination_by body => body.length
  decreasing_by all_goals simp only [List.length_drop, List.length_cons]; omega

end TextReader

def Header.text? (h : Header) : Option (List Char) :=
  match TextReader.run {} h.body with
  | some (piece :: pieces) => some (piece :: pieces).flatten
  | _ => none

end MailIndex.Mime
