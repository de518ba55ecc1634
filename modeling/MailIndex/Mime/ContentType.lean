import MailIndex.Mime.Header
import MailIndex.Text.Decimal
import MailIndex.Text.Uppercase

namespace MailIndex.Mime

structure Parameter where
  name : List Char
  value : List Char
  deriving DecidableEq, Repr

structure ContentType where
  kind : List Char
  subkind : Option (List Char)
  parameters : List Parameter
  deriving DecidableEq, Repr

namespace ContentType

def parameter? (c : ContentType) (name : String) : Option (List Char) :=
  (c.parameters.find? (·.name = name.toList)).map (·.value)

def isAttachment (c : ContentType) : Bool := c.kind = "attachment".toList

inductive Place
  | kind | subkind | name | value | quoted | comment
  deriving DecidableEq, Repr

structure Continuation where
  name : List Char
  position : Nat
  value : List Char
  deriving DecidableEq, Repr

/-- The field body as read so far. `token` and `gap` are held backwards, as in an address field;
`continued` and `extended` tell that the name at hand has been followed by one asterisk, and by
one that announces percent escapes. -/
structure Reader where
  place : Place := .kind
  outer : List Place := []
  token : Bytes := []
  gap : Bytes := []
  atStart : Bool := true
  escaped : Bool := false
  folded : Bool := false
  kind : Option (List Char) := none
  subkind : Option (List Char) := none
  name : Option (List Char) := none
  continued : Bool := false
  extended : Bool := false
  position : Nat := 0
  charset : Option (List Char) := none
  pieces : List (List Char) := []
  parameters : List Parameter := []
  continuations : List Continuation := []

namespace Reader

def clear (r : Reader) : Reader := { r with token := [], gap := [], atStart := true }

def text (r : Reader) : List Char := Text.decodeLossy r.token.reverse

def skip (r : Reader) (b : UInt8) : Reader :=
  if r.token.isEmpty then r else { r with gap := b :: r.gap }

def take (r : Reader) (b : UInt8) : Reader :=
  { r with
    token := b :: (if r.token.isEmpty then [] else r.gap ++ r.token)
    gap := [], atStart := false, escaped := false }

def endName? (r : Reader) : Option Reader :=
  if r.token.isEmpty then none
  else
    let word := Text.asciiLower r.text
    match r.place with
    | .kind => some { r with kind := some word }.clear
    | .subkind => some { r with subkind := some word }.clear
    | _ => some { r with name := some word }.clear

def endName (r : Reader) : Reader := r.endName?.getD r

/-- The number between two asterisks, or after one; what is no number counts as the first. -/
def endPosition (r : Reader) : Reader :=
  if r.token.isEmpty then r
  else { r with position := (Text.readUnsigned 0xFFFFFFFF r.text).toOption.getD 0 }.clear

def endPiece (r : Reader) (withGap : Bool) : Reader :=
  if r.token.isEmpty then r
  else
    let octets := if withGap ∧ r.place = .quoted then r.gap ++ r.token else r.token
    let blank := if r.place = .quoted then [] else [[' ']]
    { r with pieces := r.pieces ++ Text.decodeLossy octets.reverse :: blank }.clear

def endQualifier (r : Reader) : Reader :=
  if r.token.isEmpty then r
  else match r.charset with
    | none => { r with charset := some r.text }.clear
    | some _ =>
      let name := r.name.getD [] ++ "-language".toList
      if r.parameters.any (·.name = name) then
        { r with pieces := r.pieces ++ [['\''], r.text] }.clear
      else { r with parameters := r.parameters ++ [Parameter.mk name r.text] }.clear

inductive Percent
  | outside
  | started
  | half (high : Nat)

def unescape (p : Percent) : Bytes → Option Bytes
  | [] => some []
  | b :: rest =>
    match p with
    | .outside =>
      if b = 37 then unescape .started rest else (unescape .outside rest).map (b :: ·)
    | .started => (Bytes.hexValue? b).bind fun h => unescape (.half h) rest
    | .half h =>
      (Bytes.hexValue? b).bind fun l =>
        (unescape .outside rest).map (UInt8.ofNat (16 * h + l) :: ·)

def plainValue (charset : Option (List Char)) (value : List Char) : List Char :=
  match unescape .outside (Text.encode value) with
  | some octets =>
    let set := (charset.map fun name => Charset.ofName (Text.encode name)).getD .utf8
    set.decode octets
  | none => value

def endValue (r : Reader) : Reader :=
  match r.name with
  | none => r
  | some name =>
    if r.token.isEmpty ∧ r.pieces.isEmpty then r
    else
      let octets := r.token.filter fun b => ! (r.folded && (b == 10 || b == 13))
      let value := r.pieces.flatten ++ Text.decodeLossy octets.reverse
      let rest :=
        { r with name := none, pieces := [], folded := r.folded && r.token.isEmpty }.clear
      if r.continued then
        let value := if r.extended then plainValue r.charset value else value
        let rest :=
          { rest with continued := false, extended := false, charset := none, position := 0 }
        if r.position = 0 then { rest with parameters := r.parameters ++ [⟨name, value⟩] }
        else { rest with continuations := r.continuations ++ [⟨name, r.position, value⟩] }
      else { rest with parameters := r.parameters ++ [⟨name, value⟩] }

def endPart (r : Reader) : Reader :=
  match r.place with
  | .kind | .subkind | .name => r.endName
  | .value | .quoted => r.endValue
  | .comment => r

def inValue (r : Reader) : Bool := r.place = .value || r.place = .quoted

def step (r : Reader) (b : UInt8) : Reader :=
  let c := Char.ofNat b.toNat
  if isBlankByte b then
    let r := { r with atStart := true }
    if r.place = .quoted then { r with token := b :: (r.gap ++ r.token), gap := [] } else r.skip b
  else if c = '/' ∧ r.place = .kind then { r.endName with place := .subkind }
  else if c = ';' ∧ r.place ≠ .quoted ∧ r.place ≠ .comment then
    if r.place = .value ∧ r.escaped then { r with escaped := false }.skip b
    else { r.endPart with place := .name }.skip b
  else if c = '*' ∧ r.place = .name then
    if ¬ r.continued then (r.endName?.map fun r => { r with continued := true }).getD r
    else if ¬ r.extended then { r.endPosition with extended := true }
    else r.clear
  else if c = '=' ∧ r.place = .name then
    if ¬ r.continued then (r.endName?.map fun r => { r with place := .value }).getD r
    else if ¬ r.extended then { r.endPosition with extended := r.token.isEmpty, place := .value }
    else { r.clear with place := .value }
  else if c = '\x22' then
    match r.place with
    | .value => { r with atStart := true, place := .quoted }.skip b
    | .quoted => if r.escaped then r.take b else { r.endValue with place := .name }.skip b
    | _ => r.skip b
  else if c = '\\' then
    match r.place with
    | .value | .quoted => if r.escaped then r.take b else { r.endPiece true with escaped := true }
    | .comment => r.take b
    | _ => r.skip b
  else if c = '\x27' ∧ r.extended ∧ ¬ r.escaped ∧ r.inValue then r.endQualifier
  else if c = '(' ∧ r.place ≠ .quoted then
    if r.escaped then { r with escaped := false }.skip b
    else { r.endPart with place := .comment, outer := r.place :: r.outer }.skip b
  else if c = ')' ∧ r.place = .comment then
    match r.outer with
    | [] => { r with place := .name }.clear
    | p :: outer => { r with place := p, outer }.clear
  else if c = '\r' then r.skip b
  else r.take b

def word (r : Reader) (text : List Char) : Reader :=
  let r := r.endPiece false
  { r with pieces := r.pieces ++ [text] }

def run (r : Reader) : Bytes → Option Reader
  | [] => none
  | b :: rest =>
    if b = 10 then
      if ¬ rest.head?.any isBlankByte then some r.endPart
      else if r.place = .quoted then run ({ r with folded := true }.skip b) rest
      else run ({ r.endPart with place := .name, atStart := true }.skip b) rest
    else if b = 61 ∧ r.atStart ∧ r.inValue then
      match EncodedWord.read? rest with
      | some (text, n) => run (r.word text) (rest.drop n)
      | none => run (r.step b) rest
    else run (r.step b) rest
  termination_by body => body.length
  decreasing_by all_goals simp only [List.length_drop, List.length_cons]; omega

def allParameters (r : Reader) : List Parameter :=
  let sorted := r.continuations.mergeSort fun a b =>
    a.position < b.position ||
      (a.position == b.position && String.ofList a.value ≤ String.ofList b.value)
  sorted.foldl (fun ps c =>
    match ps.findIdx? (·.name = c.name) with
    | some i => ps.modify i fun p => { p with value := p.value ++ c.value }
    | none => ps ++ [⟨c.name, c.value⟩]) r.parameters

end Reader

def read? (body : Bytes) : Option ContentType :=
  (Reader.run {} body).bind fun r => r.kind.map fun kind => ⟨kind, r.subkind, r.allParameters⟩

end ContentType

end MailIndex.Mime
