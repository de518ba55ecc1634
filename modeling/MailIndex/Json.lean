import MailIndex.MailboxScan

namespace MailIndex

inductive Json
  | null
  | bool (b : Bool)
  | int (n : Int)
  | fraction
  | str (s : String)
  | arr (items : List Json)
  | obj (fields : List (String × Json))
  deriving Inhabited

namespace Json

def field? (name : String) (fields : List (String × Json)) : Option Json :=
  (fields.find? fun e => e.1 = name).map (·.2)

/-- The values of named fields, in an object or, all of them in this order, in an array. A field
that is missing in an object counts as null if it may. -/
def record (names : List (String × Bool)) : Json → Option (List Json)
  | obj fields => names.mapM fun (name, optional) =>
    match field? name fields with
    | some v => some v
    | none => if optional then some null else none
  | arr items => if items.length = names.length then some items else none
  | _ => none

def fullRecord (names : List String) (j : Json) : Option (List Json) :=
  record (names.map fun name => (name, false)) j

def string? : Json → Option String
  | str s => some s
  | _ => none

def bool? : Json → Option Bool
  | bool b => some b
  | _ => none

def nat? (bound : Nat) : Json → Option Nat
  | int n => if 0 ≤ n ∧ n < bound then some n.toNat else none
  | _ => none

def word? (j : Json) : Option UInt64 := (j.nat? 0x10000000000000000).map UInt64.ofNat

def ofWord (n : UInt64) : Json := int n.toNat

def optionalWord? : Json → Option (Option UInt64)
  | null => some none
  | j => j.word?.map some

def ofOptionalWord : Option UInt64 → Json
  | none => null
  | some n => ofWord n

def millis? : Json → Option Millis
  | int n => Millis.ofInt? n
  | _ => none

def ofMillis (t : Millis) : Json := int t.toInt

def list? {α : Type} (read : Json → Option α) : Json → Option (List α)
  | arr items => items.mapM read
  | _ => none

def bytes? (j : Json) : Option Bytes :=
  j.list? fun b => (b.nat? 256).map UInt8.ofNat

def ofBytes (bytes : Bytes) : Json := arr (bytes.map fun b => int b.toNat)

def caseName? : Json → Option String
  | str s => some s
  | obj [(s, null)] => some s
  | _ => none

def ofNames {α : Type} (all : List α) (name : α → String) (j : Json) : Option α := do
  let s ← j.caseName?
  all.find? fun a => name a = s

def tagged (name : String) (content : Json) : Json := obj [(name, content)]

end Json

open Json

namespace SystemFlag

def jsonName : SystemFlag → String
  | .answered => "Answered"
  | .deleted => "Deleted"
  | .draft => "Draft"
  | .flagged => "Flagged"
  | .recent => "Recent"
  | .seen => "Seen"

def toJson (f : SystemFlag) : Json := str f.jsonName

def ofJson? : Json → Option SystemFlag := ofNames all jsonName

end SystemFlag

namespace Flag

def toJson : Flag → Json
  | .system f => tagged "System" f.toJson
  | .keyword k => tagged "Keyword" (str k)

def ofJson? : Json → Option Flag
  | obj [("System", j)] => (SystemFlag.ofJson? j).map .system
  | obj [("Keyword", j)] => j.string?.map .keyword
  | _ => none

end Flag

namespace MessageFlags

def toJson (flags : MessageFlags) : Json :=
  obj [
    ("system", arr (flags.system.keys.map SystemFlag.toJson)),
    ("keywords", arr (flags.keywords.keys.map str))]

def ofJson? (j : Json) : Option MessageFlags := do
  match ← j.fullRecord ["system", "keywords"] with
  | [system, keywords] =>
    return ⟨.ofList (← system.list? SystemFlag.ofJson?), .ofList (← keywords.list? string?)⟩
  | _ => none

end MessageFlags

namespace MailboxId

def toJson (m : MailboxId) : Json := ofBytes m.bytes

def ofJson? (j : Json) : Option MailboxId := do MailboxId.ofBytes? (← j.bytes?)

end MailboxId

namespace TextScope

def all : List TextScope := [.body, .full]

def jsonName : TextScope → String
  | .body => "Body"
  | .full => "Full"

def toJson (s : TextScope) : Json := str s.jsonName

def ofJson? : Json → Option TextScope := ofNames all jsonName

end TextScope

namespace DateOp

def all : List DateOp := [.on, .before, .after]

def toJson (op : DateOp) : Json := str op.name

def ofJson? : Json → Option DateOp := ofNames all name

end DateOp

namespace Resolution

def all : List Resolution := [.year, .month, .day, .hour, .minute, .second]

def toJson (r : Resolution) : Json := str r.name

def ofJson? : Json → Option Resolution := ofNames all name

end Resolution

namespace ScanMode

def all : List ScanMode := [.client, .colocated]

def jsonName : ScanMode → String
  | .client => "Client"
  | .colocated => "Colocated"

def toJson (mode : ScanMode) : Json := str mode.jsonName

def ofJson? : Json → Option ScanMode := ofNames all jsonName

end ScanMode

namespace FailurePolicy

def all : List FailurePolicy := [.partialResult, .propagate]

def jsonName : FailurePolicy → String
  | .partialResult => "Partial"
  | .propagate => "Propagate"

def toJson (p : FailurePolicy) : Json := str p.jsonName

def ofJson? : Json → Option FailurePolicy := ofNames all jsonName

end FailurePolicy

namespace IdRange

def toJson (r : IdRange) : Json := obj [("start", ofWord r.first), ("end", ofWord r.last)]

/-- Unlike other records, a range has no fields besides its own. -/
def hasNoOtherFields : Json → Bool
  | obj fields => fields.all fun e => e.1 = "start" || e.1 = "end"
  | _ => true

def ofJson? (j : Json) : Option IdRange := do
  if ! hasNoOtherFields j then none
  match ← j.fullRecord ["start", "end"] with
  | [first, last] => return ⟨← first.word?, ← last.word?⟩
  | _ => none

end IdRange

namespace Criterion

def toJson : Criterion → Json
  | .text value scope => tagged "Text" (obj [("value", str value), ("scope", scope.toJson)])
  | .headerContains name value =>
    tagged "HeaderContains" (obj [("name", str name), ("value", str value)])
  | .headerExists name => tagged "HeaderExists" (obj [("name", str name)])
  | .headerAddress name value =>
    tagged "HeaderAddress" (obj [("name", str name), ("value", str value)])
  | .flag f isSet => tagged "Flag" (obj [("flag", f.toJson), ("is_set", bool isSet)])
  | .internalDate op t r =>
    tagged "InternalDate"
      (obj [("op", op.toJson), ("timestamp", ofMillis t), ("resolution", r.toJson)])
  | .all => str "All"
  | .size larger smaller =>
    tagged "Size"
      (obj [("larger_than", ofOptionalWord larger), ("smaller_than", ofOptionalWord smaller)])
  | .uid ranges => tagged "Uid" (arr (ranges.map IdRange.toJson))
  | .modSeq n => tagged "ModSeq" (ofWord n)
  | .not c => tagged "Not" c.toJson

def ofRecord? (kind : String) (content : Json) : Option Criterion :=
  match kind with
  | "Text" => do
    match ← content.fullRecord ["value", "scope"] with
    | [value, scope] => return .text (← value.string?) (← TextScope.ofJson? scope)
    | _ => none
  | "HeaderContains" => do
    match ← content.fullRecord ["name", "value"] with
    | [name, value] => return .headerContains (← name.string?) (← value.string?)
    | _ => none
  | "HeaderExists" => do
    match ← content.fullRecord ["name"] with
    | [name] => return .headerExists (← name.string?)
    | _ => none
  | "HeaderAddress" => do
    match ← content.fullRecord ["name", "value"] with
    | [name, value] => return .headerAddress (← name.string?) (← value.string?)
    | _ => none
  | "Flag" => do
    match ← content.fullRecord ["flag", "is_set"] with
    | [f, isSet] => return .flag (← Flag.ofJson? f) (← isSet.bool?)
    | _ => none
  | "InternalDate" => do
    match ← content.fullRecord ["op", "timestamp", "resolution"] with
    | [op, t, r] =>
      return .internalDate (← DateOp.ofJson? op) (← t.millis?) (← Resolution.ofJson? r)
    | _ => none
  | "Size" => do
    match ← content.record [("larger_than", true), ("smaller_than", true)] with
    | [larger, smaller] => return .size (← larger.optionalWord?) (← smaller.optionalWord?)
    | _ => none
  | "Uid" => (content.list? IdRange.ofJson?).map .uid
  | "ModSeq" => content.word?.map .modSeq
  | _ => none

def ofJson? : Json → Option Criterion
  | str "All" => some .all
  | obj [("All", null)] => some .all
  | obj [("Not", content)] => (ofJson? content).map .not
  | obj [(kind, content)] => ofRecord? kind content
  | _ => none

end Criterion

namespace SearchRequest

def toJson (r : SearchRequest) : Json :=
  obj [("mailbox", r.mailbox.toJson), ("criteria", arr (r.criteria.map Criterion.toJson))]

def ofJson? (j : Json) : Option SearchRequest := do
  match ← j.fullRecord ["mailbox", "criteria"] with
  | [m, criteria] => return ⟨← MailboxId.ofJson? m, ← criteria.list? Criterion.ofJson?⟩
  | _ => none

end SearchRequest

namespace Bound

def toJson : Bound Bytes → Json
  | .unbounded => str "Unbounded"
  | .included b => tagged "Included" (ofBytes b)
  | .excluded b => tagged "Excluded" (ofBytes b)

def ofJson? : Json → Option (Bound Bytes)
  | str "Unbounded" => some .unbounded
  | obj [("Unbounded", null)] => some .unbounded
  | obj [("Included", b)] => b.bytes?.map .included
  | obj [("Excluded", b)] => b.bytes?.map .excluded
  | _ => none

end Bound

namespace Filter

mutual

def toJson : RowFilter → Json
  | .all => str "All"
  | .rowEquals row => tagged "RowEquals" (ofBytes row)
  | .rowStarts start => tagged "RowPrefix" (ofBytes start)
  | .rowWithin lower upper =>
    tagged "RowRange" (obj [("lower", lower.toJson), ("upper", upper.toJson)])
  | .rowMatches pattern => tagged "RowRegex" (str pattern)
  | .valueContains needle => tagged "ValueContains" (ofBytes needle)
  | .valueExcludes needle => tagged "ValueExcludes" (ofBytes needle)
  | .qualifierEquals q => tagged "QualifierEquals" (ofBytes q)
  | .conj parts => tagged "And" (arr (listToJson parts))
  | .disj parts => tagged "Or" (arr (listToJson parts))

def listToJson : List RowFilter → List Json
  | [] => []
  | f :: fs => toJson f :: listToJson fs

end

def ofContent? (kind : String) (content : Json) : Option RowFilter :=
  match kind with
  | "RowEquals" => content.bytes?.map .rowEquals
  | "RowPrefix" => content.bytes?.map .rowStarts
  | "RowRange" => do
    match ← content.fullRecord ["lower", "upper"] with
    | [lower, upper] => return .rowWithin (← Bound.ofJson? lower) (← Bound.ofJson? upper)
    | _ => none
  | "RowRegex" => content.string?.map .rowMatches
  | "ValueContains" => content.bytes?.map .valueContains
  | "ValueExcludes" => content.bytes?.map .valueExcludes
  | "QualifierEquals" => content.bytes?.map .qualifierEquals
  | _ => none

mutual

def ofJson? : Json → Option RowFilter
  | str "All" => some .all
  | obj [("All", null)] => some .all
  | obj [("And", arr parts)] => (listOfJson? parts).map .conj
  | obj [("Or", arr parts)] => (listOfJson? parts).map .disj
  | obj [(kind, content)] => ofContent? kind content
  | _ => none

def listOfJson? : List Json → Option (List RowFilter)
  | [] => some []
  | j :: js => do return (← ofJson? j) :: (← listOfJson? js)

end

end Filter

namespace ScanOutcome

def toJson (o : ScanOutcome) : Json :=
  obj [("message_ids", arr (o.ids.keys.map ofWord)), ("complete", bool o.complete)]

def ofJson? (j : Json) : Option ScanOutcome := do
  match ← j.fullRecord ["message_ids", "complete"] with
  | [ids, complete] => return ⟨.ofList (← ids.list? word?), ← complete.bool?⟩
  | _ => none

end ScanOutcome

end MailIndex
