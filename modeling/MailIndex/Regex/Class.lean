import MailIndex.Regex.Basic
import MailIndex.Text.Blank
import MailIndex.Unicode.Folding
import MailIndex.Unicode.Property

namespace MailIndex.Regex

open Text

structure Flags where
  ignoreCase : Bool
  multiLine : Bool
  dotAll : Bool
  unicode : Bool
  anyLineEnd : Bool
  spaced : Bool
  frugal : Bool
  deriving DecidableEq, Repr

inductive Kind
  | digit | space | word
  deriving DecidableEq, Repr

inductive Atom
  | char (c : Char) (isCode : Bool)
  | kind (k : Kind) (negated : Bool)
  | property (set : Bands) (negated : Bool)
  | place (p : Place)
  | dot
  deriving DecidableEq, Repr

def skipSpaced (inComment : Bool) : List Char → List Char
  | [] => []
  | c :: rest =>
    if inComment then skipSpaced (c != '\n') rest
    else if isBlank c then skipSpaced false rest
    else if c == '#' then skipSpaced true rest
    else c :: rest

def skip (spaced : Bool) (s : List Char) : List Char := if spaced then skipSpaced false s else s

def takeSpaced (keep : Char → Bool) (spaced inComment : Bool) :
    List Char → List Char × List Char
  | [] => ([], [])
  | c :: rest =>
    if inComment then takeSpaced keep spaced (c != '\n') rest
    else if spaced && isBlank c then takeSpaced keep spaced false rest
    else if spaced && c == '#' then takeSpaced keep spaced true rest
    else if keep c then
      let (kept, after) := takeSpaced keep spaced false rest
      (c :: kept, after)
    else ([], c :: rest)

def hexDigit? (c : Char) : Option Nat :=
  if c.toNat < 128 then Bytes.hexValue? (UInt8.ofNat c.toNat) else none

def charOfCode? (n : Nat) : Option Char :=
  if h : n.isValidChar then some (Char.ofNatAux n h) else none

def readFixedHex (spaced : Bool) : (count value : Nat) → List Char → Option (Nat × List Char)
  | 0, value, s => some (value, s)
  | n + 1, value, s =>
    match s with
    | [] => none
    | c :: rest => do
      readFixedHex spaced n (16 * value + (← hexDigit? c)) (skip spaced rest)

def readBraced (spaced : Bool) (s : List Char) : Option (List Char × List Char) :=
  match takeSpaced (· ≠ '\x7d') spaced false s with
  | (inside, _ :: rest) => some (inside, rest)
  | (_, []) => none

def readBracedHex (spaced : Bool) (s : List Char) : Option (Nat × List Char) := do
  let (digits, rest) ← readBraced spaced s
  if digits.isEmpty then none
  return (← digits.foldlM (fun n c => (hexDigit? c).map (16 * n + ·)) 0, rest)

def readHex (spaced : Bool) (width : Nat) (s : List Char) : Option (Atom × List Char) :=
  match skip spaced s with
  | '\x7b' :: rest => do
    let (n, rest) ← readBracedHex spaced rest
    return (.char (← charOfCode? n) false, skip spaced rest)
  | s => do
    let (n, rest) ← readFixedHex spaced width 0 s
    return (.char (← charOfCode? n) (width == 2), rest)

def namedPlace? (name : List Char) : Option Place :=
  if name = "start".toList then some .wordStart
  else if name = "end".toList then some .wordEnd
  else if name = "start-half".toList then some .wordStartHalf
  else if name = "end-half".toList then some .wordEndHalf
  else none

def isPlaceNameChar (c : Char) : Bool :=
  ('A' ≤ c && c ≤ 'Z') || ('a' ≤ c && c ≤ 'z') || c == '-'

/-- A brace after `\b` begins a name if a letter or hyphen follows it, and a count otherwise. -/
def readWordEdge (spaced : Bool) (s : List Char) : Option (Atom × List Char) :=
  match s with
  | '\x7b' :: rest =>
    match skip spaced rest with
    | [] => none
    | c :: tail =>
      if isPlaceNameChar c then
        match takeSpaced isPlaceNameChar spaced false (c :: tail) with
        | (name, '\x7d' :: after) => (namedPlace? name).map fun p => (.place p, after)
        | _ => none
      else some (.place .wordEdge, s)
  | _ => some (.place .wordEdge, s)

/-- The set that a name stands for, or a name and a value with a colon or an equals sign between
them. An exclamation mark before the latter, if there is one, changes nothing. -/
def namedProperty? (s : List Char) : Option Bands :=
  match cut '!' s with
  | some (name, '=' :: value) => Unicode.propertyValue? name value
  | _ =>
    match (cut ':' s).or (cut '=' s) with
    | some (name, value) => Unicode.propertyValue? name value
    | none => Unicode.property? s
where
  cut (mark : Char) (s : List Char) : Option (List Char × List Char) :=
    match s.span (· ≠ mark) with
    | (before, _ :: after) => some (before, after)
    | (_, []) => none

def readProperty (spaced negated : Bool) (s : List Char) : Option (Atom × List Char) :=
  match skip spaced s with
  | '\x7b' :: rest => do
    let (inside, rest) ← readBraced spaced rest
    return (.property (← namedProperty? inside) negated, rest)
  | '\\' :: _ => none
  | c :: rest => (Unicode.property? [c]).map fun set => (.property set negated, rest)
  | [] => none

def isEscapable (c : Char) : Bool :=
  c.toNat < 128 && ! c.isAlphanum && c != '<' && c != '>'

def readEscape (spaced : Bool) : List Char → Option (Atom × List Char)
  | [] => none
  | c :: rest =>
    let plain (n : Nat) : Option (Atom × List Char) := some (.char (Char.ofNat n) false, rest)
    match c with
    | 'x' => readHex spaced 2 rest
    | 'u' => readHex spaced 4 rest
    | 'U' => readHex spaced 8 rest
    | 'd' => some (.kind .digit false, rest)
    | 'D' => some (.kind .digit true, rest)
    | 's' => some (.kind .space false, rest)
    | 'S' => some (.kind .space true, rest)
    | 'w' => some (.kind .word false, rest)
    | 'W' => some (.kind .word true, rest)
    | 'p' => readProperty spaced false rest
    | 'P' => readProperty spaced true rest
    | 'a' => plain 7
    | 't' => plain 9
    | 'n' => plain 10
    | 'v' => plain 11
    | 'f' => plain 12
    | 'r' => plain 13
    | 'A' => some (.place .textStart, rest)
    | 'z' => some (.place .textEnd, rest)
    | 'b' => readWordEdge spaced rest
    | 'B' => some (.place .notWordEdge, rest)
    | '<' => some (.place .wordStart, rest)
    | '>' => some (.place .wordEnd, rest)
    | _ => if isEscapable c then plain c.toNat else none

def closeAsciiCase (s : Bands) : Bands :=
  let upper := (s.inter (.range 65 90)).map (· + 32)
  let lower := (s.inter (.range 97 122)).map (· - 32)
  s.union (Bands.union upper lower)

def everything (flags : Flags) : Bands := if flags.unicode then Bands.scalars else Bands.octets

def negateIf (flags : Flags) (negated : Bool) (set : Bands) : Bands :=
  if negated then (everything flags).diff set else set

def foldSet (flags : Flags) (set : Bands) : Bands :=
  if ! flags.ignoreCase then set
  else if flags.unicode then Unicode.closeCase set
  else closeAsciiCase set

def closeSet (flags : Flags) (negated : Bool) (set : Bands) : Bands :=
  negateIf flags negated (foldSet flags set)

def asciiWord : Bands :=
  Bands.unions [.range 48 57, .range 65 90, .single 95, .range 97 122]

def asciiKind : Kind → Bands
  | .digit => .range 48 57
  | .space => Bands.union (.range 9 13) (.single 32)
  | .word => asciiWord

def unicodeKind : Kind → Bands
  | .digit => Unicode.decimalDigits
  | .space => blankBands
  | .word => Unicode.wordCharacters

def kindSet (flags : Flags) (k : Kind) (negated : Bool) : Bands :=
  negateIf flags negated (if flags.unicode then unicodeKind k else asciiKind k)

def propertySet? (flags : Flags) (set : Bands) (negated : Bool) : Option Bands :=
  if flags.unicode then some (closeSet flags negated set) else none

/-- The number of a character inside brackets. Sets of octets hold no character beyond ASCII, but
any octet given by two digits. -/
def memberCode? (flags : Flags) (c : Char) (isCode : Bool) : Option Nat :=
  if flags.unicode || isCode || c.toNat < 128 then some c.toNat else none

def alphaSet : Bands := Bands.union (.range 65 90) (.range 97 122)

def punctSet : Bands :=
  Bands.unions [.range 33 47, .range 58 64, .range 91 96, .range 123 126]

def namedSets : List (String × Bands) := [
  ("alnum", alphaSet.union (.range 48 57)),
  ("alpha", alphaSet),
  ("ascii", .range 0 127),
  ("blank", Bands.union (.single 9) (.single 32)),
  ("cntrl", Bands.union (.range 0 31) (.single 127)),
  ("digit", .range 48 57),
  ("graph", .range 33 126),
  ("lower", .range 97 122),
  ("print", .range 32 126),
  ("punct", punctSet),
  ("space", asciiKind .space),
  ("upper", .range 65 90),
  ("word", asciiWord),
  ("xdigit", Bands.unions [.range 48 57, .range 65 70, .range 97 102])]

def readNamedSet (flags : Flags) : List Char → Option (Bands × List Char)
  | ':' :: rest =>
    let (negated, rest) := match rest with
      | '^' :: r => (true, r)
      | r => (false, r)
    match rest.span (· ≠ ':') with
    | (name, ':' :: ']' :: after) =>
      (namedSets.find? fun e => e.1.toList = name).map fun e =>
        (closeSet flags negated e.2, after)
    | _ => none
  | _ => none

structure Members where
  set : Bands
  count : Nat
  depth : Nat

namespace Members

def none : Members := ⟨.none, 0, 0⟩

def add (m : Members) (set : Bands) (depth : Nat) : Members :=
  ⟨m.set.union set, m.count + 1, max m.depth depth⟩

def level (m : Members) : Nat := if m.count ≤ 1 then m.depth else m.depth + 1

end Members

inductive SetOp
  | inter | diff | symmDiff
  deriving DecidableEq, Repr

def SetOp.apply : SetOp → Bands → Bands → Bands
  | .inter => Bands.inter
  | .diff => Bands.diff
  | .symmDiff => Bands.symmDiff

structure OpenClass where
  outer : Members
  negated : Bool
  left : Option (SetOp × Bands × Nat)

def OpenClass.join (flags : Flags) (o : OpenClass) (m : Members) : Bands × Nat :=
  match o.left with
  | none => (m.set, m.level)
  | some (op, left, depth) =>
    (op.apply (foldSet flags left) (foldSet flags m.set), max depth m.level + 1)

def readOpening (spaced : Bool) (s : List Char) : Option (Bool × Members × List Char) :=
  let s := skip spaced s
  let negated := s.head? == some '^'
  let s := if negated then skip spaced (s.drop 1) else s
  match takeSpaced (· == '-') spaced false s with
  | (_, []) => none
  | ([], ']' :: rest) => some (negated, Members.none.add (.single 93) 0, skip spaced rest)
  | ([], s) => some (negated, .none, s)
  | (hyphens, s) =>
    some (negated, hyphens.foldl (fun m _ => m.add (.single 45) 0) Members.none, s)

def readMember (spaced : Bool) : List Char → Option (Atom × List Char)
  | [] => none
  | '\\' :: rest => readEscape spaced rest
  | c :: rest => some (.char c false, rest)

/-- Whether the character after a hyphen keeps it from making a range. Of a comment only its mark is
passed over here. -/
def hyphenStands (spaced : Bool) (s : List Char) : Bool :=
  let next := if spaced then passMark (s.dropWhile isBlank) else s
  next.head? == some ']' || next.head? == some '-'
where
  passMark : List Char → List Char
    | '#' :: rest => rest.dropWhile isBlank
    | s => s

def readItem (flags : Flags) (s : List Char) : Option (Bands × List Char) := do
  let (first, rest) ← readMember flags.spaced s
  match skip flags.spaced rest with
  | [] => none
  | '-' :: after =>
    if hyphenStands flags.spaced after then single first ('-' :: after)
    else
      let (last, rest) ← readMember flags.spaced (skip flags.spaced after)
      match first, last with
      | .char a aIsCode, .char b bIsCode =>
        if b < a then none
        let lo ← memberCode? flags a aIsCode
        let hi ← memberCode? flags b bIsCode
        return (Bands.range lo hi, rest)
      | _, _ => none
  | rest => single first rest
where
  single (a : Atom) (rest : List Char) : Option (Bands × List Char) :=
    match a with
    | .char c isCode => (memberCode? flags c isCode).map fun n => (Bands.single n, rest)
    | .kind k negated => some (kindSet flags k negated, rest)
    | .property set negated => (propertySet? flags set negated).map (·, rest)
    | _ => none

inductive ClassStep
  | more (outer : List OpenClass) (current : OpenClass) (members : Members) (rest : List Char)
  | closed (set : Bands) (depth : Nat) (rest : List Char)

def startOperand (flags : Flags) (outer : List OpenClass) (o : OpenClass) (m : Members)
    (op : SetOp) (rest : List Char) : ClassStep :=
  let (set, depth) := o.join flags m
  .more outer { o with left := some (op, set, depth) } .none rest

def classStep (flags : Flags) (outer : List OpenClass) (o : OpenClass) (m : Members)
    (s : List Char) : Option ClassStep :=
  match skip flags.spaced s with
  | [] => none
  | '[' :: rest =>
    match readNamedSet flags rest with
    | some (set, after) => some (.more outer o (m.add set 0) after)
    | none =>
      (readOpening flags.spaced rest).map fun (negated, members, after) =>
        .more (o :: outer) ⟨m, negated, none⟩ members after
  | ']' :: rest =>
    let (set, depth) := o.join flags m
    let set := closeSet flags o.negated set
    match outer with
    | [] => some (.closed set (depth + 1) rest)
    | p :: outer => some (.more outer p (o.outer.add set (depth + 1)) rest)
  | '&' :: '&' :: rest => some (startOperand flags outer o m .inter rest)
  | '-' :: '-' :: rest => some (startOperand flags outer o m .diff rest)
  | '~' :: '~' :: rest => some (startOperand flags outer o m .symmDiff rest)
  | s => (readItem flags s).map fun (set, rest) => .more outer o (m.add set 0) rest

def readMembers (flags : Flags) (steps : Nat) (outer : List OpenClass) (o : OpenClass)
    (m : Members) (s : List Char) : Option (Bands × Nat × List Char) :=
  match steps with
  | 0 => none
  | steps + 1 =>
    match classStep flags outer o m s with
    | none => none
    | some (.closed set depth rest) => some (set, depth, rest)
    | some (.more outer o m rest) => readMembers flags steps outer o m rest

def readClass (flags : Flags) (steps : Nat) (s : List Char) :
    Option (Bands × Nat × List Char) := do
  let (negated, members, rest) ← readOpening flags.spaced s
  readMembers flags steps [] ⟨.none, negated, none⟩ members rest

end MailIndex.Regex
