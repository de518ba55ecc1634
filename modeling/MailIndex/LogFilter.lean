import MailIndex.Regex.Pattern
import MailIndex.Text.Decimal
import MailIndex.Text.Uppercase

/-! Which texts say what is logged: directives between commas, each a level, a target, or a target
with spans, fields and a level. -/

namespace MailIndex

namespace LogFilter

open Text

def isLevel (s : List Char) : Bool :=
  match readUnsigned 0xFFFFFFFFFFFFFFFF s with
  | .ok n => n ≤ 5
  | .error _ =>
    ["", "error", "warn", "info", "debug", "trace", "off"].any fun name =>
      name.toList == asciiLower s

def isField (s : List Char) : Bool :=
  if s.isEmpty then false
  else match splitOn (· = '=') s with
    | _ :: value :: _ =>
      (readUnsigned 0xFFFFFFFFFFFFFFFF value).isOk ||
        (Regex.ofPattern? ("(?u)" ++ String.ofList value)).isSome
    | _ => true

inductive Stage
  | start
  | levelOrTarget
  | span
  | field (start : Nat)
  | fields
  | target
  | level (start : Nat)
  deriving DecidableEq, Repr

def startsName (c : Char) : Bool := c == '-' || c == ':' || c == '_' || isAlphanumeric c

def next (directive : List Char) (stage : Stage) (i : Nat) (c : Char) : Option Stage :=
  match stage with
  | .start => if c = '[' then some .span else if startsName c then some .levelOrTarget else none
  | .levelOrTarget =>
    if c = '=' then some (.level (i + 1)) else if c = '[' then some .span else some stage
  | .span =>
    if c = ']' then some .target else if c = '\x7b' then some (.field (i + 1)) else some stage
  | .field start =>
    if c = '\x7d' then
      if isField ((directive.take i).drop start) then some .fields else none
    else some stage
  | .fields => if c = ']' then some .target else none
  | .target => if c = '=' then some (.level (i + 1)) else none
  | .level _ => some stage

def stages (directive : List Char) (stage : Stage) (i : Nat) : List Char → Option Stage
  | [] => some stage
  | c :: rest =>
    match next directive stage i c with
    | some stage => stages directive stage (i + 1) rest
    | none => none

/-- Places count from the first character that is not blank, but the texts between them are cut
from the whole directive. -/
def isDirective (directive : List Char) : Bool :=
  match stages directive .start 0 (trim directive) with
  | some .levelOrTarget => true
  | some .target => true
  | some (.level start) => isLevel (directive.drop start)
  | _ => false

def isValid (text : String) : Bool :=
  ((splitOn (· = ',') text.toList).filter (· ≠ [])).all isDirective

end LogFilter

end MailIndex
