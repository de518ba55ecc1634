import MailIndex.Regex.Class
import MailIndex.Regex.Room
import MailIndex.Text.Alphanumeric

namespace MailIndex.Regex

open Text

inductive Leaf
  | literal (octets : Bytes)
  | octets (set : Bands)
  | chars (set : Bands)
  | place (p : Place) (unicode : Bool)
  deriving DecidableEq, Repr

namespace Leaf

def regex : Leaf → Regex
  | literal bytes => .literal bytes
  | octets set => .octet set
  | chars set => .scalar set
  | place p unicode => .place p unicode

def shape : Leaf → Shape
  | literal bytes => .literal bytes
  | octets set => .ofOctets set
  | chars set => .ofChars set
  | place p unicode => .place p unicode

end Leaf

/-- A finished piece, its simplified form, and how deep its nesting goes. A change of flags is a
piece that no repetition may follow. -/
structure Piece where
  regex : Regex
  shape : Shape
  depth : Nat
  repeatable : Bool

namespace Piece

def empty : Piece := ⟨.empty, .empty, 0, true⟩

def ofLeaf (l : Leaf) : Piece := ⟨l.regex, l.shape, 0, true⟩

def ofReversed : List Piece → Piece
  | [] => empty
  | [p] => { p with repeatable := true }
  | reversed =>
    let ps := reversed.reverse
    ⟨sequence (ps.map (·.regex)), .sequence (ps.map (·.shape)),
      (ps.map (·.depth)).foldl max 0 + 1, true⟩

def ofAlternatives : List Piece → Piece
  | [] => empty
  | [p] => p
  | p :: ps =>
    ⟨ps.foldl (fun r q => .alt q.regex r) p.regex, .choice ((p :: ps).reverse.map (·.shape)),
      (ps.map (·.depth)).foldl max p.depth + 1, true⟩

def inGroup (p : Piece) (capturing : Bool) : Piece :=
  ⟨p.regex, if capturing then .group p.shape else p.shape, p.depth + 1, true⟩

def repeated (p : Piece) (least : Nat) (most : Option Nat) (greedy : Bool) : Piece :=
  let (least, most) :=
    if p.regex.takesNothing then (min least 1, some (min (most.getD 1) 1)) else (least, most)
  ⟨.times p.regex least most, p.shape.repeated least most greedy, p.depth + 1, true⟩

end Piece

structure OpenGroup where
  pieces : List Piece
  alternatives : List Piece
  flags : Flags
  capturing : Bool

structure Reading where
  pieces : List Piece
  alternatives : List Piece
  flags : Flags
  opened : List OpenGroup
  names : List (List Char)

namespace Reading

/-- A dot stands for every octet, and no character beyond ASCII is in a class, until flags say
otherwise. -/
def start : Reading := ⟨[], [], ⟨false, false, true, false, false, false, false⟩, [], []⟩

def push (r : Reading) (p : Piece) : Reading := { r with pieces := p :: r.pieces }

def current (r : Reading) : Piece :=
  Piece.ofAlternatives (Piece.ofReversed r.pieces :: r.alternatives)

end Reading

def charLeaf (flags : Flags) (c : Char) (isCode : Bool) : Leaf :=
  let alone := Bands.single c.toNat
  let closed := foldSet flags alone
  if closed != alone then (if flags.unicode then .chars closed else .octets closed)
  else if isCode && ! flags.unicode then .literal [UInt8.ofNat c.toNat]
  else .literal (encode [c])

def setLeaf (flags : Flags) (set : Bands) : Leaf :=
  if flags.unicode then .chars set else .octets set

def dotLeaf (flags : Flags) : Leaf :=
  let lineEnds : Bands :=
    if flags.dotAll then .none
    else if flags.anyLineEnd then Bands.union (.single 10) (.single 13)
    else .single 10
  setLeaf flags ((everything flags).diff lineEnds)

def lineStart (flags : Flags) : Place :=
  if ! flags.multiLine then .textStart else if flags.anyLineEnd then .anyLineStart else .lineStart

def lineEnd (flags : Flags) : Place :=
  if ! flags.multiLine then .textEnd else if flags.anyLineEnd then .anyLineEnd else .lineEnd

def Atom.leaf? (flags : Flags) : Atom → Option Leaf
  | .char c isCode => some (charLeaf flags c isCode)
  | .kind k negated => some (setLeaf flags (kindSet flags k negated))
  | .property set negated => (propertySet? flags set negated).map Leaf.chars
  | .place p => some (.place p flags.unicode)
  | .dot => some (dotLeaf flags)

def readFlags (seen : List Char) (last : Option Char) (on : Bool) (flags : Flags) :
    List Char → Option (Flags × Bool × List Char)
  | [] => none
  | c :: rest =>
    if c == ':' || c == ')' then
      if last == some '-' then none else some (flags, seen.isEmpty, c :: rest)
    else if seen.contains c then none
    else
      let next (f : Flags) := readFlags (c :: seen) (some c) on f rest
      match c with
      | '-' => readFlags (c :: seen) (some c) false flags rest
      | 'i' => next { flags with ignoreCase := on }
      | 'm' => next { flags with multiLine := on }
      | 's' => next { flags with dotAll := on }
      | 'u' => next { flags with unicode := on }
      | 'R' => next { flags with anyLineEnd := on }
      | 'x' => next { flags with spaced := on }
      | 'U' => next { flags with frugal := on }
      | _ => none

def readName (s : List Char) : Option (List Char × List Char) :=
  match s.span (· ≠ '>') with
  | ([], _) => none
  | (c :: cs, '>' :: rest) =>
    if (c == '_' || Unicode.isAlphabetic c) &&
      cs.all fun d => d == '_' || d == '.' || d == '[' || d == ']' || isAlphanumeric d
    then some (c :: cs, rest) else none
  | _ => none

def Reading.openGroup (r : Reading) (flags : Flags) (capturing : Bool) : Reading :=
  { r with
    pieces := []
    alternatives := []
    flags
    opened := ⟨r.pieces, r.alternatives, r.flags, capturing⟩ :: r.opened }

def openNamed (r : Reading) (s : List Char) : Option (Reading × List Char) := do
  let (name, rest) ← readName s
  if r.names.contains name then none
  return ({ r with names := name :: r.names }.openGroup r.flags true, rest)

def readOpen (r : Reading) (s : List Char) : Option (Reading × List Char) :=
  match skip r.flags.spaced s with
  | '?' :: 'P' :: '<' :: rest => openNamed r rest
  | '?' :: '<' :: c :: rest => if c == '=' || c == '!' then none else openNamed r (c :: rest)
  | '?' :: rest =>
    match readFlags [] none true r.flags rest with
    | some (flags, _, ':' :: rest) => some (r.openGroup flags false, rest)
    | some (flags, false, ')' :: rest) =>
      some ({ r with flags, pieces := { Piece.empty with repeatable := false } :: r.pieces }, rest)
    | _ => none
  | rest => some (r.openGroup r.flags true, rest)

def readClose (r : Reading) (rest : List Char) : Option (Reading × List Char) :=
  match r.opened with
  | [] => none
  | g :: opened =>
    some ({ r with
      pieces := r.current.inGroup g.capturing :: g.pieces
      alternatives := g.alternatives
      flags := g.flags
      opened }, rest)

def repeatLast (r : Reading) (least : Nat) (most : Option Nat) (rest : List Char) :
    Option (Reading × List Char) :=
  let (marked, rest) := match rest with
    | '?' :: rest => (true, rest)
    | rest => (false, rest)
  match r.pieces with
  | [] => none
  | p :: pieces =>
    if p.repeatable then
      some ({ r with pieces := p.repeated least most (marked == r.flags.frugal) :: pieces }, rest)
    else none

def readCount (spaced : Bool) (s : List Char) : Option (Nat × List Char) :=
  let (digits, rest) := takeSpaced Char.isDigit spaced false (s.dropWhile isBlank)
  let n := digits.foldl (fun n c => 10 * n + (c.toNat - 48)) 0
  if digits.isEmpty || n ≥ 0x100000000 then none
  else some (n, skip spaced (rest.dropWhile isBlank))

def readBounds (spaced : Bool) (s : List Char) :
    Option (Nat × Option Nat × List Char) := do
  let (least, rest) ← readCount spaced (skip spaced s)
  match rest with
  | '\x7d' :: rest => return (least, some least, rest)
  | ',' :: rest =>
    match skip spaced rest with
    | '\x7d' :: rest => return (least, none, rest)
    | rest =>
      let (most, rest) ← readCount spaced rest
      match rest with
      | '\x7d' :: rest => if most < least then none else return (least, some most, rest)
      | _ => none
  | _ => none

def readPiece (steps : Nat) (r : Reading) (c : Char) (rest : List Char) :
    Option (Reading × List Char) :=
  match c with
  | '(' => readOpen r rest
  | ')' => readClose r rest
  | '|' =>
    some ({ r with
      pieces := []
      alternatives := Piece.ofReversed r.pieces :: r.alternatives }, rest)
  | '[' =>
    (readClass r.flags steps rest).map fun (set, depth, rest) =>
      (r.push { Piece.ofLeaf (setLeaf r.flags set) with depth }, rest)
  | '?' => repeatLast r 0 (some 1) rest
  | '*' => repeatLast r 0 none rest
  | '+' => repeatLast r 1 none rest
  | '\x7b' =>
    match readBounds r.flags.spaced rest with
    | some (least, most, rest) => repeatLast r least most (skip r.flags.spaced rest)
    | none => none
  | '\\' => do
    let (a, rest) ← readEscape r.flags.spaced rest
    return (r.push (.ofLeaf (← a.leaf? r.flags)), rest)
  | '.' => some (r.push (.ofLeaf (dotLeaf r.flags)), rest)
  | '^' => some (r.push (.ofLeaf (.place (lineStart r.flags) r.flags.unicode)), rest)
  | '$' => some (r.push (.ofLeaf (.place (lineEnd r.flags) r.flags.unicode)), rest)
  | _ => some (r.push (.ofLeaf (charLeaf r.flags c false)), rest)

def depthLimit : Nat := 250

def finish (r : Reading) : Option Regex :=
  match r.opened with
  | [] =>
    let p := r.current
    if p.depth ≤ depthLimit && p.shape.isSmall then some p.regex else none
  | _ :: _ => none

/-- Reads the pieces one after another; each takes a character or more, so that no more `steps` are
needed than there are characters. -/
def readAll (steps : Nat) (r : Reading) (s : List Char) : Option Regex :=
  match skip r.flags.spaced s, steps with
  | [], _ => finish r
  | _ :: _, 0 => none
  | c :: rest, steps + 1 => do
    let (r, after) ← readPiece steps r c rest
    readAll steps r after

def ofPattern? (pattern : String) : Option Regex :=
  let s := pattern.toList
  readAll s.length .start s

end MailIndex.Regex
