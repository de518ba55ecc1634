import MailIndex.Regex.Shape
import MailIndex.Text.Utf8Ranges

/-! The room that the automata for a regular expression take: one reads a text from its start, the
other from its end. -/

namespace MailIndex.Regex

open Text

/-- A state takes 32 octets, an interval that leads on 8 more, and a way on without an octet 4. -/
def stateRoom (intervals ways : Nat) : Nat := 32 + 8 * intervals + 4 * ways

def total (rooms : List Nat) : Nat := rooms.foldr (· + ·) 0

def chunkRoom (intervals : Nat) : Nat :=
  if intervals = 1 then stateRoom 0 0 else stateRoom intervals 0

/-- A state of an automaton for a set of characters: intervals of octets, and the numbers of the
states that they lead to. The end has the number zero. -/
abbrev Node := List (Interval × Nat)

def addNodes (depth : Nat) (sequences : List (List Interval)) (nodes : List Node) :
    Nat × List Node :=
  match depth, sequences with
  | 0, _ => (0, nodes)
  | _, [] :: _ => (0, nodes)
  | depth + 1, sequences =>
    let groups := sequences.splitBy fun a b => a.head? == b.head?
    let (node, nodes) := groups.foldl (fun (node, nodes) group =>
      match group.head? with
      | some (r :: _) =>
        let (target, nodes) := addNodes depth (group.map List.tail) nodes
        ((r, target) :: node, nodes)
      | _ => (node, nodes)) (([], nodes) : Node × List Node)
    match nodes.idxOf? node with
    | some i => (i + 1, nodes)
    | none => (nodes.length + 1, nodes ++ [node])

def countStarts : List (List Interval) → Nat
  | [] => 0
  | [a] => a.length
  | a :: b :: rest => a.length - common a b + countStarts (b :: rest)
where
  common : List Interval → List Interval → Nat
    | x :: a, y :: b => if x = y then common a b + 1 else 0
    | _, _ => 0

/-- The room for a set of characters. Read from the start, sequences share how they end; read from
the end, they share how they start. -/
def charsRoom (backward : Bool) (set : Bands) : Nat :=
  let sequences := utf8Ranges set
  if backward then
    stateRoom 0 0 + stateRoom 0 sequences.length + stateRoom 0 0 * countStarts sequences
  else
    let nodes := (addNodes 4 sequences []).2
    stateRoom 0 0 + total (nodes.map fun node => stateRoom node.length 0)

def intervalsRoom (set : Bands) : Nat := stateRoom 0 0 + stateRoom set.ranges.length 0

def cutAtEnds (texts : List Bytes) : List (List Bytes) :=
  match texts.span List.isEmpty with
  | ([], rest) => cut rest
  | (_, rest) => [] :: cut rest
where
  cut (texts : List Bytes) : List (List Bytes) :=
    texts.foldr (fun t chunks =>
      match t, chunks with
      | [], chunks => [] :: chunks
      | t, chunk :: chunks => (t :: chunk) :: chunks
      | t, [] => [[t]]) [[]]

/-- The room for the states of a tree of texts that not all are empty, the end left out. A text
that ends where others go on cuts these into those before and those after it. -/
def treeRoom : (depth : Nat) → List Bytes → Nat
  | 0, _ => 0
  | _, [t] => t.length * (chunkRoom 1 + stateRoom 0 1)
  | depth + 1, texts =>
    let chunks := cutAtEnds texts
    let filled := chunks.filter fun chunk => ! chunk.isEmpty
    let rooms := filled.map fun chunk =>
      let firsts := (chunk.filterMap List.head?).eraseDups
      let below := firsts.map fun b =>
        let tails := (chunk.filter fun t => t.head? == some b).map List.tail
        if tails.all List.isEmpty then 0 else treeRoom depth tails
      chunkRoom firsts.length + total below
    total rooms + stateRoom 0 (filled.length + chunks.length - 1)

def textsRoom (backward : Bool) (texts : List Bytes) : Nat :=
  let texts := if backward then texts.map List.reverse else texts
  stateRoom 0 0 + treeRoom ((texts.map List.length).foldl max 0) texts

structure Extent where
  takesNothing : Bool
  /-- Whether every match takes an octet, unless there is never a match. -/
  moves : Option Bool
  fromStart : Bool
  toEnd : Bool
  room : Nat
  deriving DecidableEq, Repr

namespace Extent

def octets (room : Nat) : Extent := ⟨false, some true, false, false, room⟩

def upToFirst (parts : List Extent) : List Extent :=
  let (nothing, rest) := parts.span (·.takesNothing)
  nothing ++ rest.take 1

def concat (reversed : List Extent) : Extent where
  takesNothing := reversed.all (·.takesNothing)
  moves :=
    if reversed.all (·.moves.isSome) then some (reversed.any (·.moves == some true)) else none
  fromStart := (upToFirst reversed.reverse).any (·.fromStart)
  toEnd := (upToFirst reversed).any (·.toEnd)
  room := total (reversed.map (·.room))

def alternation (branches : List Extent) (room : Nat) : Extent where
  takesNothing := branches.all (·.takesNothing)
  moves :=
    if branches.all (·.moves.isSome) then some (branches.all (·.moves == some true)) else none
  fromStart := branches.all (·.fromStart)
  toEnd := branches.all (·.toEnd)
  room

def times (e : Extent) (least : Nat) (most : Option Nat) : Extent where
  takesNothing := e.takesNothing
  moves := e.moves.map fun m => m && least != 0
  fromStart := e.fromStart && least != 0
  toEnd := e.toEnd && least != 0
  room :=
    let choice := stateRoom 0 2
    match least, most with
    | 0, some 1 => choice + stateRoom 0 0 + e.room
    | 0, none => (if e.moves = some true then choice else 2 * choice + stateRoom 0 0) + e.room
    | n + 1, none => choice + (n + 1) * e.room
    | n, some m =>
      if n = m then n * e.room
      else
        (if n = 0 then stateRoom 0 0 else n * e.room) + stateRoom 0 0 +
          (m - n) * (choice + e.room)

end Extent

namespace Shape

def asText? : Shape → Option Bytes
  | literal bytes => some bytes
  | _ => none

mutual
def extent (backward : Bool) : Shape → Extent
  | empty => ⟨true, some false, false, false, stateRoom 0 0⟩
  | literal bytes => .octets (stateRoom 0 0 * bytes.length)
  | octets set =>
    let e := Extent.octets (intervalsRoom set)
    if set.isEmpty then { e with moves := none } else e
  | chars set => .octets (if isAscii set then intervalsRoom set else charsRoom backward set)
  | place p _ => ⟨true, some false, p == .textStart, p == .textEnd, stateRoom 0 0⟩
  | concat ss => .concat (extents backward [] ss)
  | alternation ss =>
    let branches := extents backward [] ss
    .alternation branches (match ss.mapM asText? with
      | some texts => textsRoom backward texts
      | none => stateRoom 0 0 + stateRoom 0 branches.length + total (branches.map (·.room)))
  | group s =>
    let e := s.extent backward
    if backward then e else { e with room := 2 * stateRoom 0 0 + e.room }
  | times s least most _ => (s.extent backward).times least most

def extents (backward : Bool) (found : List Extent) : List Shape → List Extent
  | [] => found
  | s :: ss => extents backward (s.extent backward :: found) ss
end

def room (backward : Bool) (s : Shape) : Nat :=
  let e := s.extent backward
  let anchored := if backward then e.toEnd else e.fromStart
  let search := if anchored then stateRoom 0 0 else stateRoom 0 2 + intervalsRoom (.range 0 255)
  search + (if backward then 0 else 2 * stateRoom 0 0) + e.room + stateRoom 0 0

def roomLimit : Nat := 10 * 0x100000

def tooLarge : String := s!"Compiled regex exceeds size limit of {roomLimit} bytes."

def isSmall (s : Shape) : Bool := [false, true].all fun backward => s.room backward ≤ roomLimit

end Shape

end MailIndex.Regex
