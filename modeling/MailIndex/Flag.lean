import MailIndex.Order
import MailIndex.Text.Blank
import MailIndex.Text.Uppercase
import MailIndex.Text.Utf8

namespace MailIndex

inductive SystemFlag
  | answered | deleted | draft | flagged | recent | seen
  deriving DecidableEq, Repr

namespace SystemFlag

def all : List SystemFlag := [.answered, .deleted, .draft, .flagged, .recent, .seen]

def bareName : SystemFlag → String
  | .answered => "ANSWERED"
  | .deleted => "DELETED"
  | .draft => "DRAFT"
  | .flagged => "FLAGGED"
  | .recent => "RECENT"
  | .seen => "SEEN"

def token (f : SystemFlag) : String := "\\" ++ f.bareName

def rank : SystemFlag → Nat
  | .answered => 0
  | .deleted => 1
  | .draft => 2
  | .flagged => 3
  | .recent => 4
  | .seen => 5

def ofName? (name : List Char) : Option SystemFlag :=
  let bare := match name with
    | '\\' :: rest => rest
    | _ => name
  all.find? fun f => f.bareName.toList = Text.asciiUpper bare

instance : LT SystemFlag := ⟨fun a b => a.rank < b.rank⟩

instance : DecidableLT SystemFlag := fun a b => inferInstanceAs (Decidable (a.rank < b.rank))

instance : StrictTotal SystemFlag where
  irrefl a := Nat.lt_irrefl a.rank
  trans h₁ h₂ := Nat.lt_trans h₁ h₂
  connected a b := by cases a <;> cases b <;> decide

end SystemFlag

/-- A keyword is kept as it was written; only its token is folded. -/
inductive Flag
  | system : SystemFlag → Flag
  | keyword : String → Flag
  deriving DecidableEq, Repr

inductive FlagError
  | emptyName
  | unknownName (name : String)
  deriving DecidableEq, Repr

def FlagError.message : FlagError → String
  | .emptyName => "Flag name must not be empty"
  | .unknownName name => s!"Unknown system flag or invalid keyword '{name}'"

namespace Flag

def token : Flag → String
  | .system f => f.token
  | .keyword k => Text.uppercase k

instance : ToString Flag := ⟨token⟩

def parse (text : String) : Except FlagError Flag :=
  let name := Text.trim text.toList
  if name = [] ∨ name = ['\\'] then .error .emptyName
  else match SystemFlag.ofName? name with
    | some f => .ok (.system f)
    | none =>
      if '\\' ∈ name then .error (.unknownName (String.ofList name))
      else .ok (.keyword (String.ofList name))

end Flag

structure MessageFlags where
  system : SortedSet SystemFlag
  keywords : SortedSet String

namespace MessageFlags

def empty : MessageFlags := ⟨∅, ∅⟩

instance : EmptyCollection MessageFlags := ⟨empty⟩

def insert (flags : MessageFlags) : Flag → MessageFlags
  | .system f => { flags with system := SortedSet.insert flags.system f }
  | .keyword k => { flags with keywords := SortedSet.insert flags.keywords (Text.uppercase k) }

def ofList (l : List Flag) : MessageFlags := l.foldl insert ∅

def isEmpty (flags : MessageFlags) : Bool := flags.system.isEmpty && flags.keywords.isEmpty

/-- The value of a message without flags: a lone backslash, which is no flag's token. -/
def emptyMarker : String := "\\"

def encode (flags : MessageFlags) : String :=
  if flags.isEmpty then emptyMarker
  else String.join (flags.system.keys.map SystemFlag.token ++ flags.keywords.keys)

def encodeBytes (flags : MessageFlags) : Bytes := Text.encodeString flags.encode

def listNames (list : String) : List String :=
  (((Text.splitOn (· = ',') list.toList).map Text.trim).filter (· ≠ [])).map String.ofList

def parseList (list : String) : Except FlagError MessageFlags := do
  return ofList (← (listNames list).mapM Flag.parse)

end MessageFlags

end MailIndex
