/-! Reading the words of a command line: options, operands and subcommands. -/

namespace MailIndex.CommandLine

inductive UsageError
  | help
  | version
  | nothingGiven
  | missingSubcommand
  | unknownSubcommand
  | unknownArgument
  | tooManyValues
  | conflict
  | badChoice
  | badValue (message : String)
  | missingArgument
  deriving DecidableEq, Repr

/-- A place for a value in a draft `σ` of what a command line means. -/
structure Slot (σ : Type) where
  takesValue : Bool
  isFull : σ → Bool
  store : String → σ → Except UsageError σ

namespace Slot

variable {σ α : Type}

def switch (get : σ → Bool) (set : σ → σ) : Slot σ :=
  ⟨false, get, fun _ d => .ok (set d)⟩

def one (get : σ → Option α) (set : α → σ → σ) (read : String → Except UsageError α) : Slot σ :=
  ⟨true, fun d => (get d).isSome, fun s d => (read s).map fun a => set a d⟩

def many (add : α → σ → σ) (read : String → Except UsageError α) : Slot σ :=
  ⟨true, fun _ => false, fun s d => (read s).map fun a => add a d⟩

def accept (slot : Slot σ) (value : Option String) (d : σ) : Except UsageError σ :=
  if slot.takesValue && value.isNone then .error .badChoice
  else if slot.isFull d then .error .conflict
  else slot.store (value.getD "") d

end Slot

structure Grammar (σ : Type) where
  options : List (String × Slot σ)
  operands : List (Slot σ)
  subcommands : List String
  hasVersion : Bool

/-- How far a level has been read. The value of an occurrence is taken in only when the next one
begins, or at the end. -/
structure Progress (σ : Type) where
  draft : σ
  pending : Option (Slot σ × Option String)
  operands : List (Slot σ)
  onlyOperands : Bool
  given : Bool

namespace Grammar

variable {σ : Type}

def start (g : Grammar σ) (draft : σ) : Progress σ := ⟨draft, none, g.operands, false, false⟩

def settle (p : Progress σ) : Except UsageError (Progress σ) :=
  match p.pending with
  | none => .ok p
  | some (slot, value) =>
    (slot.accept value p.draft).map fun d => { p with draft := d, pending := none, given := true }

def acceptNow (p : Progress σ) (slot : Slot σ) (value : Option String) :
    Except UsageError (Progress σ) := do
  let p ← settle p
  let d ← slot.accept value p.draft
  return { p with draft := d, given := true }

def awaitsValue (p : Progress σ) : Bool :=
  match p.pending with
  | some (slot, none) => slot.takesValue
  | _ => false

def stop (p : Progress σ) (e : UsageError) : Except UsageError (Progress σ) := do
  let _ ← settle p
  .error e

def readLong (g : Grammar σ) (p : Progress σ) (name : String) (value : Option String) :
    Except UsageError (Progress σ) :=
  if name = "help" || (g.hasVersion && name = "version") then
    if value.isSome then .error .tooManyValues
    else stop p (if name = "help" then .help else .version)
  else match g.options.find? fun o => o.1 = name with
    | none => .error .unknownArgument
    | some (_, slot) =>
      match slot.takesValue, value with
      | true, none => (settle p).map fun p => { p with pending := some (slot, none) }
      | false, some _ => .error .tooManyValues
      | _, value => acceptNow p slot value

def readShort (g : Grammar σ) (p : Progress σ) (letter : Char) : Except UsageError (Progress σ) :=
  if letter = 'h' then stop p .help
  else if g.hasVersion && letter = 'V' then stop p .version
  else .error .unknownArgument

def isSubcommand (g : Grammar σ) (word : String) : Bool :=
  ! g.subcommands.isEmpty && (word = "help" || g.subcommands.contains word)

def readOperand (g : Grammar σ) (p : Progress σ) (word : String) :
    Except UsageError (Progress σ) :=
  match p.operands with
  | slot :: operands =>
    (settle p).map fun p => { p with pending := some (slot, some word), operands }
  | [] =>
    if g.subcommands.isEmpty || (p.onlyOperands && g.isSubcommand word) then
      .error .unknownArgument
    else .error .unknownSubcommand

def readWord (g : Grammar σ) (p : Progress σ) (word : String) : Except UsageError (Progress σ) :=
  if p.onlyOperands then g.readOperand p word
  else match word.toList with
    | ['-', '-'] => .ok { p with onlyOperands := true }
    | '-' :: '-' :: long =>
      match long.span (· ≠ '=') with
      | (name, []) => g.readLong p (String.ofList name) none
      | (name, _ :: value) => g.readLong p (String.ofList name) (some (String.ofList value))
    | '-' :: letter :: _ => g.readShort p letter
    | _ =>
      match p.pending, awaitsValue p with
      | some (slot, _), true => .ok { p with pending := some (slot, some word) }
      | _, _ => g.readOperand p word

def read (g : Grammar σ) (p : Progress σ) :
    List String → Except UsageError (Progress σ × Option (String × List String))
  | [] => .ok (p, none)
  | word :: words =>
    if ! p.onlyOperands && ! awaitsValue p && g.isSubcommand word then
      .ok (p, some (word, words))
    else do
      let p ← g.readWord p word
      g.read p words

def readAll (g : Grammar σ) (draft : σ) (words : List String) : Except UsageError σ := do
  let (p, _) ← g.read (g.start draft) words
  return (← settle p).draft

def helpOn (g : Grammar σ) : List String → UsageError
  | [] => .help
  | [word] => if g.isSubcommand word then .help else .unknownSubcommand
  | _ => .unknownSubcommand

end Grammar

end MailIndex.CommandLine
