import MailIndex.Mime.EncodedWord

namespace MailIndex.Mime

structure Address where
  name : Option String
  mailbox : Option String
  deriving DecidableEq, Repr

structure AddressGroup where
  name : Option String
  members : List Address
  deriving DecidableEq, Repr

inductive AddressList
  | none
  | single : List Address → AddressList
  | grouped : List AddressGroup → AddressList
  deriving DecidableEq, Repr

namespace AddressList

def toList : AddressList → List Address
  | .none => []
  | .single as => as
  | .grouped gs => gs.flatMap (·.members)

def first? (l : AddressList) : Option Address := l.toList.head?

end AddressList

namespace AddressReader

inductive Place
  | name | angle | quote | comment
  deriving DecidableEq, Repr

structure Piece where
  text : List Char
  encoded : Bool
  deriving DecidableEq, Repr

namespace Piece

def plain (text : List Char) : Piece := ⟨text, false⟩

def spaced (pieces : List Piece) (p : Piece) : List Piece :=
  if pieces.isEmpty then [p] else pieces ++ [plain [' '], p]

def withWord (pieces : List Piece) (text : List Char) : List Piece :=
  if pieces.getLast?.any (·.encoded) then pieces ++ [⟨text, true⟩] else spaced pieces ⟨text, true⟩

def join (pieces : List Piece) : List Char := pieces.flatMap (·.text)

def joined? (pieces : List Piece) : Option String :=
  if pieces.isEmpty then none else some (String.ofList (join pieces))

end Piece

/-- The field as read so far. A token is held backwards, its first octet last; `gap` holds the
blanks that came after it and count only if more of it follows. -/
structure State where
  place : Place := .name
  outer : List Place := []
  token : Bytes := []
  gap : Bytes := []
  tokenHasAt : Bool := false
  atStart : Bool := true
  escaped : Bool := false
  names : List Piece := []
  mailboxes : List Piece := []
  comments : List Piece := []
  addresses : List Address := []
  groupName : Option String := none
  groupComment : Option String := none
  groups : List AddressGroup := []

namespace State

/-- Ends the token and puts it where the place says; a token with an at sign outside angle
brackets is a mailbox. -/
def flush (s : State) : State :=
  if s.token.isEmpty then s
  else
    let piece := Piece.plain (Text.decodeLossy s.token.reverse)
    let s' := match s.place with
      | .angle => { s with mailboxes := s.mailboxes ++ [piece] }
      | .name =>
        if s.tokenHasAt then { s with mailboxes := s.mailboxes ++ [piece] }
        else { s with names := Piece.spaced s.names piece }
      | .quote => { s with names := s.names ++ [piece] }
      | .comment => { s with comments := Piece.spaced s.comments piece }
    { s' with token := [], gap := [], tokenHasAt := false, atStart := true, escaped := false }

def currentAddress (s : State) : Option Address :=
  let name := match Piece.joined? s.names, Piece.joined? s.comments with
    | some n, some c => some (n ++ " (" ++ c ++ ")")
    | some n, none => some n
    | none, c => c
  let mailbox := Piece.joined? s.mailboxes
  if name.isNone ∧ mailbox.isNone then none else some ⟨name, mailbox⟩

def endAddress (s : State) : State :=
  { s with
    names := [], mailboxes := [], comments := []
    addresses := s.addresses ++ s.currentAddress.toList }

def endGroup (s : State) : State :=
  let s := s.endAddress
  if s.groupName.isNone ∧ s.addresses.isEmpty then s
  else
    let name := match s.groupName, s.groupComment with
      | some n, some c => if s.addresses.isEmpty then some n else some (n ++ " (" ++ c ++ ")")
      | some n, none => some n
      | none, c => c
    { s with
      groups := s.groups ++ [⟨name, s.addresses⟩]
      addresses := [], groupName := none, groupComment := none }

def openGroup (s : State) : State :=
  let s := s.flush
  let name := match Piece.joined? s.names, Piece.joined? s.mailboxes with
    | some n, some m => some (n ++ " " ++ m)
    | n, m => n.or m
  let comment := Piece.joined? s.comments
  let s := { s with names := [], mailboxes := [], comments := [] }.endGroup
  { s with groupName := name, groupComment := comment.or s.groupComment }

def take (s : State) (b : UInt8) : State :=
  { s with
    token := b :: (if s.token.isEmpty then [] else s.gap ++ s.token)
    gap := [], atStart := false, escaped := false }

def blank (s : State) (b : UInt8) : State :=
  let s := { s with atStart := true, escaped := false }
  if s.place = .quote then { s with token := b :: (s.gap ++ s.token), gap := [] }
  else if s.token.isEmpty then s
  else { s with gap := b :: s.gap }

def enter (s : State) (p : Place) : State := { s with place := p, outer := s.place :: s.outer }

def leave (s : State) : State :=
  match s.outer with
  | [] => { s with place := .name }
  | p :: rest => { s with place := p, outer := rest }

def step (s : State) (b : UInt8) : State :=
  let c := Char.ofNat b.toNat
  if c = '\\' ∧ s.place ≠ .name ∧ ¬ s.escaped then { s.flush with escaped := true }
  else if c = ',' ∧ s.place = .name then s.flush.endAddress
  else if c = '<' ∧ s.place = .name then
    ({ s with tokenHasAt := false }.flush).enter .angle
  else if c = '>' ∧ s.place = .angle then s.flush.leave
  else if c = '\x22' ∧ ¬ s.escaped ∧ s.place = .name then (s.enter .quote).flush
  else if c = '\x22' ∧ ¬ s.escaped ∧ s.place = .quote then s.flush.leave
  else if c = ' ' ∨ c = '\t' then s.blank b
  else if c = '\r' then
    if s.token.isEmpty then s else { s with gap := b :: s.gap }
  else if c = '(' ∧ s.place ≠ .quote ∧ ¬ s.escaped then
    if s.place = .comment then (s.enter .comment).take b
    else s.flush.enter .comment
  else if c = ')' ∧ s.place = .comment ∧ ¬ s.escaped then
    if s.outer.head? = some .comment then s.leave.take b
    else s.flush.leave
  else if c = ':' ∧ s.place = .name ∧ ¬ s.escaped then s.openGroup
  else if c = ';' ∧ s.place = .name then s.flush.endGroup
  else if c = '@' ∧ s.place = .name then { s with tokenHasAt := true }.take b
  else s.take b

def word (s : State) (text : List Char) : State :=
  let s := s.flush
  match s.place with
  | .comment => { s with comments := Piece.withWord s.comments text }
  | .quote => { s with names := s.names ++ [⟨text, true⟩] }
  | _ => { s with names := Piece.withWord s.names text }

end State

/-- Reads to the end of the field. The last token counts only if a line end follows it. -/
def run (s : State) : Bytes → State
  | [] => s
  | b :: rest =>
    if b = 10 then
      if rest.head?.any isBlankByte then run s.flush rest else s.flush
    else if b = 61 ∧ s.atStart ∧ ¬ s.escaped then
      match EncodedWord.read? rest with
      | some (text, n) => run (s.word text) (rest.drop n)
      | none => run (s.step b) rest
    else run (s.step b) rest
  termination_by field => field.length
  decreasing_by all_goals simp only [List.length_drop, List.length_cons]; omega

end AddressReader

def AddressList.read (field : Bytes) : AddressList :=
  let s := (AddressReader.run {} field).endAddress
  if s.groupName.isSome ∨ ¬ s.groups.isEmpty then .grouped s.endGroup.groups
  else if s.addresses.isEmpty then .none
  else .single s.addresses

end MailIndex.Mime
