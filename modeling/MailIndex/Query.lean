import MailIndex.Criterion
import MailIndex.RowFilter
import MailIndex.Tokens

namespace MailIndex

inductive QueryError
  | date (cause : DateError)
  | unsupported (kind : String)
  deriving DecidableEq, Repr

def QueryError.message : QueryError → String
  | .date cause => cause.message
  | .unsupported kind => s!"Search criterion '{kind}' is not supported by the posting index"

namespace Query

/-- The tokens of a text; a text without any counts as one term, unless it is blank. -/
def terms (value : String) : List Term :=
  match tokenize value with
  | [] =>
    match Text.trim value.toList with
    | [] => []
    | rest => [.ofChars rest]
  | tokens => tokens

def termMatch (m : MailboxId) (field : Field) (term : Term) : RowFilter :=
  .disj [
    .rowStarts (RowKey.encode ⟨m, field, term⟩),
    .rowContains (RowKey.fieldStart m field) term.bytes]

def scopeFields : TextScope → List Field
  | .body => [.body]
  | .full => [.body, .headers]

def sentDateRow (m : MailboxId) (t : Millis) : Bytes :=
  RowKey.encode ⟨m, .sentDate, .sentDate t⟩

def flagFilter (m : MailboxId) (flag : Flag) (isSet : Bool) : RowFilter :=
  let token := Text.encodeString flag.token
  .conj [
    .rowEquals (RowKey.flagsRow m),
    if isSet then .valueContains token else .valueExcludes token]

def compileOne (m : MailboxId) : Criterion → Except QueryError RowFilter
  | .all => .ok .all
  | .text value scope =>
    match terms value with
    | [] => .ok .all
    | ts => .ok (.anyOf ((scopeFields scope).flatMap fun field => ts.map (termMatch m field)))
  | .headerContains name value => .ok (termMatch m (.ofHeader name) (.ofText value))
  | .headerExists name => .ok (.rowStarts (RowKey.encode ⟨m, .ofHeader name, .empty⟩))
  | .headerAddress name value =>
    match terms value with
    | [] => .ok (termMatch m (.ofHeader name) .empty)
    | ts => .ok (.anyOf (ts.map (termMatch m (.ofHeader name))))
  | .flag flag isSet => .ok (flagFilter m flag isSet)
  | .internalDate op t resolution =>
    match dateRange op t resolution with
    | .error cause => .error (.date cause)
    | .ok (lower, upper) =>
      .ok (.rowWithin (lower.map (sentDateRow m)) (upper.map (sentDateRow m)))
  | c@(.size _ _) => .error (.unsupported c.kind)
  | c@(.uid _) => .error (.unsupported c.kind)
  | c@(.modSeq _) => .error (.unsupported c.kind)
  | c@(.not _) => .error (.unsupported c.kind)

/-- The messages that meet any of the criteria; all of them if there are no criteria. -/
def compile (m : MailboxId) (criteria : List Criterion) : Except QueryError RowFilter := do
  return .anyOf (← criteria.mapM (compileOne m))

end Query

end MailIndex
