import MailIndex.Error
import MailIndex.Store.Script

namespace MailIndex

def postingFamily : Bytes := [0x46]

inductive ScanMode
  | client
  | colocated
  deriving DecidableEq, Repr

inductive FailurePolicy
  | partialResult
  | propagate
  deriving DecidableEq, Repr

structure ScanOptions where
  mode : ScanMode
  policy : FailurePolicy
  timeout : Option Nat
  deriving DecidableEq, Repr

def ScanOptions.default : ScanOptions := ⟨.client, .partialResult, none⟩

/-- The milliseconds gone by since a scan began, at each look at the clock. -/
abbrev Clock := Nat → Nat

def Clock.still : Clock := fun _ => 0

structure ScanOutcome where
  ids : IdSet
  complete : Bool

namespace MailboxScan

def expired (clock : Clock) (timeout : Option Nat) (n : Nat) : Option ScanFault :=
  match timeout with
  | some t => if t ≤ clock n then some (.expired t) else none
  | none => none

def onFault (policy : FailurePolicy) (m : MailboxId) (found : IdSet) (fault : ScanFault) :
    Except Error ScanOutcome :=
  match policy with
  | .partialResult => .ok ⟨found, false⟩
  | .propagate => .error (.scanAborted m fault)

structure Progress where
  looks : Nat
  found : IdSet
  fault : Option ScanFault

def visitor (clock : Clock) (timeout : Option Nat) (p : Progress) (row : Row) : Visit Progress :=
  match expired clock timeout p.looks with
  | some fault => .stop { p with fault := some fault }
  | none => .next { p with looks := p.looks + 1, found := row.harvest p.found }

def ofScan (options : ScanOptions) (clock : Clock) (m : MailboxId) (s : Scan) :
    Except Error ScanOutcome :=
  match s.visit (visitor clock options.timeout) ⟨0, ∅, none⟩ with
  | (p, .error cause) => onFault options.policy m p.found (.store cause)
  | (p, .ok ()) =>
    match p.fault with
    | some fault => onFault options.policy m p.found fault
    | none => .ok ⟨p.found, true⟩

def ofCollected (options : ScanOptions) (clock : Clock) (m : MailboxId) :
    Except StoreError IdSet → Except Error ScanOutcome
  | .error cause => onFault options.policy m ∅ (.store cause)
  | .ok found =>
    match expired clock options.timeout 0 with
    | some fault => onFault options.policy m found fault
    | none => .ok ⟨found, true⟩

def runWith (read : String → Except FilterError Regex) (options : ScanOptions) (clock : Clock)
    (m : MailboxId) (filter : RowFilter) : Script (Except Error ScanOutcome) :=
  match filter.mapPatternsM read with
  | .error cause => return .error (.filter cause)
  | .ok matcher =>
    match options.mode with
    | .client => do
      return ofScan options clock m (← Script.scanRows postingFamily m.bytes matcher)
    | .colocated => do
      return ofCollected options clock m (← Script.collect postingFamily m.bytes matcher)

def run : ScanOptions → Clock → MailboxId → RowFilter → Script (Except Error ScanOutcome) :=
  runWith Filter.readPattern

end MailboxScan

end MailIndex
