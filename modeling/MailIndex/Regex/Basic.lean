import MailIndex.Text.Utf8
import MailIndex.Unicode.Binary

/-! Regular expressions over octets, and whether one of them matches somewhere in a text. -/

namespace MailIndex

structure Cursor where
  before : Bytes
  after : Bytes
  deriving DecidableEq, Repr

namespace Cursor

def start (text : Bytes) : Cursor := ⟨[], text⟩

def onward (before : Bytes) : Bytes → List Cursor
  | [] => [⟨before, []⟩]
  | b :: rest => ⟨before, b :: rest⟩ :: onward (b :: before) rest

def places (text : Bytes) : List Cursor := onward [] text

def advance (c : Cursor) : Nat → Cursor
  | 0 => c
  | n + 1 =>
    match c.after with
    | [] => c
    | b :: rest => advance ⟨b :: c.before, rest⟩ n

def previous? (c : Cursor) : Option UInt8 := c.before.head?

def next? (c : Cursor) : Option UInt8 := c.after.head?

def nextChar? (c : Cursor) : Option (Char × Nat) :=
  match c.after with
  | [] => none
  | lead :: rest =>
    match Text.decodeStep lead rest with
    | (some x, n) => some (x, n + 1)
    | (none, _) => none

/-- The character that the nearest lead octet before this place begins, at most four octets back.
It may end before this place if octets that continue nothing follow it. -/
def previousChar? (c : Cursor) : Option Char :=
  let tail := (c.before.take 3).takeWhile Text.isContinuation
  match (c.before.take (tail.length + 1)).reverse with
  | [] => none
  | lead :: rest => (Text.decodeStep lead rest).1

end Cursor

namespace Regex

def isWordByte (b : UInt8) : Bool :=
  let n := b.toNat
  (48 ≤ n && n ≤ 57) || (65 ≤ n && n ≤ 90) || (97 ≤ n && n ≤ 122) || n == 95

def isWordChar (c : Char) : Bool := Text.inBands Unicode.wordCharacters c.toNat

inductive Place
  | textStart | textEnd | lineStart | lineEnd | anyLineStart | anyLineEnd
  | wordEdge | notWordEdge | wordStart | wordEnd | wordStartHalf | wordEndHalf
  deriving DecidableEq, Repr

/-- Whether the octets around a place are characters where a condition that may hold between two
that are none asks for it; nothing at all counts as a character. -/
def Place.isReadable (p : Place) (c : Cursor) : Bool :=
  let before := c.before.isEmpty || c.previousChar?.isSome
  let after := c.after.isEmpty || c.nextChar?.isSome
  match p with
  | .notWordEdge => before && after
  | .wordStartHalf => before
  | .wordEndHalf => after
  | _ => true

def Place.holds (p : Place) (unicode : Bool) (c : Cursor) : Bool :=
  let wordBefore :=
    if unicode then c.previousChar?.any isWordChar else c.previous?.any isWordByte
  let wordAfter :=
    if unicode then c.nextChar?.any fun x => isWordChar x.1 else c.next?.any isWordByte
  let readable := ! unicode || p.isReadable c
  match p with
  | .textStart => c.before.isEmpty
  | .textEnd => c.after.isEmpty
  | .lineStart => c.before.isEmpty || c.previous? == some 10
  | .lineEnd => c.after.isEmpty || c.next? == some 10
  | .anyLineStart =>
    c.before.isEmpty || c.previous? == some 10 || (c.previous? == some 13 && c.next? != some 10)
  | .anyLineEnd =>
    c.after.isEmpty || c.next? == some 13 || (c.next? == some 10 && c.previous? != some 13)
  | .wordEdge => wordBefore != wordAfter
  | .notWordEdge => readable && wordBefore == wordAfter
  | .wordStart => ! wordBefore && wordAfter
  | .wordEnd => wordBefore && ! wordAfter
  | .wordStartHalf => readable && ! wordBefore
  | .wordEndHalf => readable && ! wordAfter

end Regex

inductive Regex
  | empty
  | octet (set : Text.Bands)
  | scalar (set : Text.Bands)
  | place (p : Regex.Place) (unicode : Bool)
  | seq : Regex → Regex → Regex
  | alt : Regex → Regex → Regex
  | times (r : Regex) (least : Nat) (most : Option Nat)
  deriving DecidableEq, Repr

namespace Regex

open Text

def sequence (parts : List Regex) : Regex := parts.foldr seq empty

def literal (bytes : Bytes) : Regex := sequence (bytes.map fun b => octet (Bands.single b.toNat))

def exactly (step : Cursor → List Cursor) : Nat → List Cursor → List Cursor
  | 0, cs => cs
  | n + 1, cs => if cs.isEmpty then [] else exactly step n (cs.flatMap step).eraseDups

def within (step : Cursor → List Cursor) : Nat → (seen fresh : List Cursor) → List Cursor
  | 0, seen, _ => seen
  | n + 1, seen, fresh =>
    let found := ((fresh.flatMap step).filter fun c => ! seen.contains c).eraseDups
    if found.isEmpty then seen else within step n (seen ++ found) found

/-- The places where a match that begins at `c` can end. No more rounds than there are octets left
can move on, which bounds a repetition without an upper limit. -/
def ends : Regex → Cursor → List Cursor
  | empty, c => [c]
  | octet set, c =>
    match c.after with
    | [] => []
    | b :: rest => if inBands set b.toNat then [⟨b :: c.before, rest⟩] else []
  | scalar set, c =>
    match c.nextChar? with
    | some (x, n) => if inBands set x.toNat then [c.advance n] else []
    | none => []
  | place p unicode, c => if p.holds unicode c then [c] else []
  | seq r q, c => ((ends r c).flatMap fun d => ends q d).eraseDups
  | alt r q, c => (ends r c ++ ends q c).eraseDups
  | times r least most, c =>
    let first := exactly (fun d => ends r d) least [c]
    let more := match most with
      | some m => m - least
      | none => c.after.length + 1
    within (fun d => ends r d) more first first

def isMatch (r : Regex) (text : Bytes) : Bool :=
  (Cursor.places text).any fun c => ! (r.ends c).isEmpty

def takesNothing : Regex → Bool
  | empty => true
  | octet _ => false
  | scalar _ => false
  | place _ _ => true
  | seq r q => r.takesNothing && q.takesNothing
  | alt r q => r.takesNothing && q.takesNothing
  | times r _ most => most == some 0 || r.takesNothing

end Regex

end MailIndex
