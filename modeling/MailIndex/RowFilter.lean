import MailIndex.Order
import MailIndex.Regex.Pattern

namespace MailIndex

structure Cell where
  qualifier : Bytes
  value : Bytes
  deriving DecidableEq, Repr

/-- Conditions on cells; `ρ` is how regular expressions are kept. -/
inductive Filter (ρ : Type)
  | all
  | rowEquals (row : Bytes)
  | rowStarts (start : Bytes)
  | rowWithin (lower upper : Bound Bytes)
  | rowMatches (pattern : ρ)
  | valueContains (needle : Bytes)
  | valueExcludes (needle : Bytes)
  | qualifierEquals (qualifier : Bytes)
  | conj (parts : List (Filter ρ))
  | disj (parts : List (Filter ρ))

abbrev RowFilter := Filter String

abbrev Matcher := Filter Regex

inductive FilterError
  | badPattern (pattern : String)
  deriving DecidableEq, Repr

def FilterError.message (engine : String → String) : FilterError → String
  | .badPattern pattern => s!"Invalid row regex '{pattern}': {engine pattern}"

namespace Filter

mutual

def mapPatternsM {ρ σ ε : Type} (f : ρ → Except ε σ) : Filter ρ → Except ε (Filter σ)
  | .all => .ok .all
  | .rowEquals row => .ok (.rowEquals row)
  | .rowStarts start => .ok (.rowStarts start)
  | .rowWithin lower upper => .ok (.rowWithin lower upper)
  | .rowMatches pattern => (f pattern).map .rowMatches
  | .valueContains needle => .ok (.valueContains needle)
  | .valueExcludes needle => .ok (.valueExcludes needle)
  | .qualifierEquals qualifier => .ok (.qualifierEquals qualifier)
  | .conj parts => (mapAllPatternsM f parts).map .conj
  | .disj parts => (mapAllPatternsM f parts).map .disj

def mapAllPatternsM {ρ σ ε : Type} (f : ρ → Except ε σ) :
    List (Filter ρ) → Except ε (List (Filter σ))
  | [] => .ok []
  | part :: parts => do return (← mapPatternsM f part) :: (← mapAllPatternsM f parts)

end

def readPattern (pattern : String) : Except FilterError Regex :=
  match Regex.ofPattern? pattern with
  | some r => .ok r
  | none => .error (.badPattern pattern)

def prepare (f : RowFilter) : Except FilterError Matcher := mapPatternsM readPattern f

mutual

def holds (row : Bytes) (cell : Cell) : Matcher → Bool
  | .all => true
  | .rowEquals r => row == r
  | .rowStarts start => start.isPrefixOf row
  | .rowWithin lower upper => lower.admitsAbove row && upper.admitsBelow row
  | .rowMatches r => r.isMatch row
  | .valueContains needle => needle.contains cell.value
  | .valueExcludes needle => ! needle.contains cell.value
  | .qualifierEquals q => cell.qualifier == q
  | .conj parts => holdsAll row cell parts
  | .disj parts => holdsAny row cell parts

def holdsAll (row : Bytes) (cell : Cell) : List Matcher → Bool
  | [] => true
  | part :: parts => holds row cell part && holdsAll row cell parts

def holdsAny (row : Bytes) (cell : Cell) : List Matcher → Bool
  | [] => false
  | part :: parts => holds row cell part || holdsAny row cell parts

end

/-- Every octet as an escape of two digits, so that none of them is read as an operator. -/
def escapedChars (bytes : Bytes) : List Char :=
  bytes.flatMap fun b =>
    ['\\', 'x', (Bytes.hexDigit (b.toNat / 16)).toUpper, (Bytes.hexDigit (b.toNat % 16)).toUpper]

def rowContains (start needle : Bytes) : RowFilter :=
  .rowMatches (String.ofList ('^' :: escapedChars start ++ ".*?".toList ++ escapedChars needle))

def isAll {ρ : Type} : Filter ρ → Bool
  | .all => true
  | _ => false

def alternatives {ρ : Type} : Filter ρ → List (Filter ρ)
  | .disj parts => parts
  | f => [f]

def anyOf {ρ : Type} (filters : List (Filter ρ)) : Filter ρ :=
  if filters.any isAll then .all
  else match filters.flatMap alternatives with
    | [] => .all
    | [f] => f
    | parts => .disj parts

end Filter

end MailIndex
