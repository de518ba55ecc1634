import MailIndex.Regex.Basic

namespace MailIndex.Regex

open Text

/-- Texts are as long, sequences as flat and alternatives as few as the rules below make them. -/
inductive Shape
  | empty
  | literal (octets : Bytes)
  | octets (set : Bands)
  | chars (set : Bands)
  | place (p : Place) (unicode : Bool)
  | concat (parts : List Shape)
  | alternation (branches : List Shape)
  | group (s : Shape)
  | times (s : Shape) (least : Nat) (most : Option Nat) (greedy : Bool)
  deriving Repr

namespace Shape

mutual
def same : Shape → Shape → Bool
  | empty, empty => true
  | literal a, literal b => a == b
  | octets s, octets t => s == t
  | chars s, chars t => s == t
  | place p u, place q v => p == q && u == v
  | concat ss, concat ts => sameAll ss ts
  | alternation ss, alternation ts => sameAll ss ts
  | times s l m g, times t l' m' g' => l == l' && m == m' && g == g' && same s t
  | _, _ => false

def sameAll : List Shape → List Shape → Bool
  | [], [] => true
  | s :: ss, t :: ts => same s t && sameAll ss ts
  | _, _ => false
end

def ofOctets (set : Bands) : Shape :=
  match set.ranges with
  | [(n, m)] => if n = m then literal [UInt8.ofNat n] else octets set
  | _ => octets set

def ofChars (set : Bands) : Shape :=
  match set.ranges with
  | [] => octets .none
  | [(n, m)] => if n = m then literal (encode [Char.ofNat n]) else chars set
  | _ => chars set

def parts : Shape → List Shape
  | empty => []
  | concat ss => ss
  | s => [s]

def before (s : Shape) (ss : List Shape) : List Shape :=
  match s, ss with
  | literal a, literal b :: rest => literal (a ++ b) :: rest
  | s, ss => s :: ss

def sequence (ss : List Shape) : Shape :=
  match (ss.flatMap parts).foldr before [] with
  | [] => empty
  | [s] => s
  | ss => concat ss

def branches : Shape → List Shape
  | alternation ss => ss
  | s => [s]

def asChar? : Shape → Option Nat
  | literal bytes =>
    match decode? bytes with
    | some [c] => some c.toNat
    | _ => none
  | _ => none

def asOctet? : Shape → Option Nat
  | literal [b] => some b.toNat
  | _ => none

def isAscii (set : Bands) : Bool := set.all (· ≤ 128)

def charSet? : Shape → Option Bands
  | chars set => some set
  | octets set => if isAscii set then some set else none
  | _ => none

def octetSet? : Shape → Option Bands
  | octets set => some set
  | chars set => if isAscii set then some set else none
  | _ => none

def asSet? (ss : List Shape) : Option Shape :=
  ((ss.mapM asChar?).map fun ns => ofChars (Bands.unions (ns.map .single))) <|>
  ((ss.mapM asOctet?).map fun ns => ofOctets (Bands.unions (ns.map .single))) <|>
  ((ss.mapM charSet?).map fun sets => ofChars (Bands.unions sets)) <|>
  ((ss.mapM octetSet?).map fun sets => ofOctets (Bands.unions sets))

def commonLength : List Shape → List Shape → Nat
  | s :: ss, t :: ts => if same s t then commonLength ss ts + 1 else 0
  | _, _ => 0

def concatParts? : Shape → Option (List Shape)
  | concat ss => some ss
  | _ => none

def commonStart? (ss : List Shape) : Option (List Shape × List (List Shape)) := do
  let lists ← ss.mapM concatParts?
  match lists with
  | [] => none
  | first :: others =>
    let n := others.foldl (fun n other => min n (commonLength first other)) first.length
    if n = 0 then none else some (first.take n, lists.map (List.drop n))

def branched (ss : List Shape) : Shape :=
  match ss.flatMap branches with
  | [s] => s
  | ss => (asSet? ss).getD (alternation ss)

/-- Alternatives: what all of them begin with stands once before the rest of them. The rest has no
start in common. -/
def choice (ss : List Shape) : Shape :=
  let ss := ss.flatMap branches
  match ss with
  | [s] => s
  | ss =>
    match asSet? ss with
    | some s => s
    | none =>
      match commonStart? ss with
      | some (start, rests) => sequence (start ++ [branched (rests.map sequence)])
      | none => alternation ss

def repeated (s : Shape) (least : Nat) (most : Option Nat) (greedy : Bool) : Shape :=
  match least, most with
  | 0, some 0 => empty
  | 1, some 1 => s
  | _, _ => times s least most greedy

end Shape

end MailIndex.Regex
