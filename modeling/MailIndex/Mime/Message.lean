import MailIndex.Mime.Address
import MailIndex.Mime.ContentType
import MailIndex.Mime.Html

namespace MailIndex.Mime

inductive PartKind
  | mixed | alternative | related | digest | otherMultipart
  | plainText | htmlText | otherText
  | media | message | other
  deriving DecidableEq, Repr

namespace PartKind

def isMultipart : PartKind → Bool
  | .mixed | .alternative | .related | .digest | .otherMultipart => true
  | _ => false

def isInline : PartKind → Bool
  | .plainText | .htmlText | .media => true
  | _ => false

def isText : PartKind → Bool
  | .plainText | .htmlText | .otherText => true
  | _ => false

def ofContentType (parent : PartKind) : Option ContentType → PartKind
  | none => if parent = .digest then .message else .plainText
  | some c =>
    let kind (s : String) : Bool := c.kind = s.toList
    let sub (s : String) : Bool := c.subkind = some s.toList
    if kind "multipart" then
      if sub "mixed" then .mixed
      else if sub "alternative" then .alternative
      else if sub "related" then .related
      else if sub "digest" then .digest
      else .otherMultipart
    else if kind "text" then
      if sub "plain" then .plainText else if sub "html" then .htmlText else .otherText
    else if kind "image" || kind "audio" || kind "video" then .media
    else if kind "message" && (sub "rfc822" || sub "global") then .message
    else .other

end PartKind

inductive Body
  | text : List Char → Body
  | html : List Char → Body
  | data
  deriving DecidableEq, Repr

def Body.text? : Body → Option (List Char)
  | .text s => some s
  | .html s => some (Html.toText s)
  | .data => none

/-- What a parser makes of a message. -/
structure Message where
  headers : List Header
  sender : AddressList
  recipients : AddressList
  cc : AddressList
  bcc : AddressList
  subject? : Option (List Char)
  /-- The texts of the parts to be shown by a reader of plain text, in order; some have none. -/
  textBody : List (Option (List Char))
  deriving Repr

namespace Message

def bodyText? (m : Message) (i : Nat) : Option (List Char) := m.textBody[i]?.join

def ofParts (headers : List Header) (bodies : List Body) : Message :=
  let addresses (name : String) : AddressList :=
    ((Header.find? headers name).map fun h => AddressList.read h.body).getD .none
  { headers
    sender := addresses "from"
    recipients := addresses "to"
    cc := addresses "cc"
    bcc := addresses "bcc"
    subject? := (Header.find? headers "subject").bind (·.text?)
    textBody := bodies.map Body.text? }

end Message

namespace PartReader

structure Level where
  kind : PartKind := .message
  boundary : Option Bytes := none
  inAlternative : Bool := false
  parts : Nat := 0
  htmlBefore : Nat := 0
  textBefore : Nat := 0
  needHtml : Bool := true
  needText : Bool := true

structure Draft where
  headers : Option (List Header) := none
  textBody : List Body := []
  htmlBody : List Body := []

def Draft.addHeaders (d : Draft) (headers : List Header) : Draft :=
  { d with headers := some (d.headers.getD headers) }

structure Frame where
  level : Level
  outer : Option Draft

structure State where
  level : Level := {}
  draft : Draft := {}
  frames : List Frame := []

def skipLineEnd : Bytes → Bytes
  | [] => []
  | b :: rest =>
    if b = 13 ∨ b = 32 ∨ b = 9 then skipLineEnd rest else if b = 10 then rest else b :: rest

theorem length_skipLineEnd (s : Bytes) : (skipLineEnd s).length ≤ s.length := by
  induction s with
  | nil => simp [skipLineEnd]
  | cons b rest ih =>
    simp only [skipLineEnd]
    split
    · simp; omega
    · split <;> simp

def splitAt? (delimiter : Bytes) : Bytes → Option (Bytes × Bytes)
  | [] => if delimiter.isEmpty then some ([], []) else none
  | b :: rest =>
    if delimiter.isPrefixOf (b :: rest) then some ([], (b :: rest).drop delimiter.length)
    else (splitAt? delimiter rest).map fun (before, after) => (b :: before, after)

theorem length_splitAt? {delimiter s before after : Bytes}
    (h : splitAt? delimiter s = some (before, after)) : after.length ≤ s.length := by
  induction s generalizing before with
  | nil =>
    simp only [splitAt?] at h
    split at h <;> simp_all
  | cons b rest ih =>
    simp only [splitAt?] at h
    split at h
    · simp only [Option.some.injEq, Prod.mk.injEq] at h
      simp [← h.2]
    · obtain ⟨⟨x, y⟩, hx, hy⟩ := Option.map_eq_some_iff.1 h
      simp only [Prod.mk.injEq] at hy
      have := ih (hy.2 ▸ hx)
      simp only [List.length_cons]
      omega

def delimiter (boundary : Bytes) : Bytes := 45 :: 45 :: boundary

def wholeLines (before : Bytes) : Bytes :=
  match before.reverse with
  | 10 :: 13 :: rest => rest.reverse
  | 10 :: rest => rest.reverse
  | _ => before

def afterDelimiter : Bytes → Bool × Bytes
  | 13 :: 10 :: rest => (false, rest)
  | 10 :: rest => (false, rest)
  | 45 :: 45 :: rest => (true, rest)
  | b :: rest => if isSpace b then (false, skipLineEnd rest) else (false, b :: rest)
  | [] => (false, [])

theorem length_afterDelimiter (s : Bytes) : (afterDelimiter s).2.length ≤ s.length := by
  fun_cases afterDelimiter s with
  | case4 b rest _ _ _ _ =>
    have := length_skipLineEnd rest
    simp only [List.length_cons]
    omega
  | _ => simp <;> omega

/-- What is kept of an alternative that offers one form only: it serves for both. -/
def completeAlternative (level : Level) (draft : Draft) : Draft :=
  if level.kind = .alternative ∧ level.needHtml ∧ level.needText then
    if draft.textBody.length = level.textBefore then
      { draft with textBody := draft.textBody ++ draft.htmlBody.drop level.htmlBefore }
    else if draft.htmlBody.length = level.htmlBefore then
      { draft with htmlBody := draft.htmlBody ++ draft.textBody.drop level.textBefore }
    else draft
  else draft

def leaveMessage (s : State) : Option State :=
  if s.level.kind = .message then
    match s.frames with
    | ⟨level, some outer⟩ :: frames =>
      some ⟨{ level with boundary := s.level.boundary }, outer, frames⟩
    | _ => none
  else some s

theorem frames_leaveMessage {s t : State} (h : leaveMessage s = some t) :
    t.frames.length ≤ s.frames.length := by
  simp only [leaveMessage] at h
  split at h
  · split at h
    · rename_i hf
      simp only [Option.some.injEq] at h
      simp [← h, hf]
    · simp at h
  · simp_all

inductive Step
  | readOn (s : State) (rest : Bytes)
  | stop (s : State)

def afterPart (s : State) (rest : Bytes) : Step :=
  match ht : leaveMessage s with
  | none => .stop s
  | some t =>
    let (closes, rest) := afterDelimiter rest
    if closes then
      let draft := completeAlternative t.level t.draft
      match hf : t.frames with
      | [] => .stop { t with draft }
      | frame :: frames =>
        have : frames.length < s.frames.length := by
          have := frames_leaveMessage ht
          simp only [hf, List.length_cons] at this
          omega
        let next : State := ⟨frame.level, draft, frames⟩
        match (frame.level.boundary).bind fun b => splitAt? (delimiter b) rest with
        | none => .stop next
        | some (_, rest) => afterPart next rest
    else .readOn t rest
  termination_by s.frames.length

def Step.remaining : Step → Nat
  | .readOn _ rest => rest.length
  | .stop _ => 0

theorem remaining_afterPart (s : State) (rest : Bytes) :
    (afterPart s rest).remaining ≤ rest.length := by
  fun_induction afterPart s rest with
  | case4 s rest t ht rest' draft frame frames hf _ next _ rest'' hs hd ih =>
    obtain ⟨b, -, hb⟩ := Option.bind_eq_some_iff.1 hs
    have h₁ := length_splitAt? hb
    have h₂ := length_afterDelimiter rest
    rw [hd] at h₂
    simp only at h₂
    omega
  | case5 s rest t ht closes rest' hd _ =>
    have := length_afterDelimiter rest
    rw [hd] at this
    exact this
  | case1 => simp [Step.remaining]
  | case2 => simp [Step.remaining]
  | case3 => simp [Step.remaining]

def placement (level : Level) (kind : PartKind) (isInline : Bool) : Bool × Bool :=
  if level.kind = .alternative then (kind = .htmlText, kind = .plainText)
  else if isInline then (level.needHtml, level.needText)
  else (false, false)

/-- Inside an alternative, the first form shown in place settles what is still needed. -/
def settle (level : Level) (kind : PartKind) (isInline : Bool) : Level :=
  if level.kind ≠ .alternative ∧ isInline ∧ level.inAlternative ∧ (level.needText ∨ level.needHtml)
  then
    match kind with
    | .htmlText => { level with needText := false }
    | .plainText => { level with needHtml := false }
    | _ => level
  else level

def isShownInline (level : Level) (kind : PartKind) (headers : List Header)
    (type : Option ContentType) : Bool :=
  let disposition := (Header.find? headers "content-disposition").bind fun h =>
    ContentType.read? h.body
  kind.isInline && ! (disposition.map (·.isAttachment)).getD false &&
    (level.parts == 1 ||
      (level.kind != .related &&
        (kind == .media || ((type.bind (·.parameter? "name")).isNone))))

def bodyOf (kind : PartKind) (type : Option ContentType) (content : Bytes) : Body :=
  if kind.isText then
    let charset := ((type.bind (·.parameter? "charset")).map fun name =>
      Charset.ofName (Text.encode name)).getD .utf8
    let text := charset.decode content
    if kind = .htmlText then .html text else .text text
  else .data

structure Content where
  raw : Bytes
  decoded : Option Bytes
  after : Option Bytes

def Content.ofRest (encoding : TransferEncoding) (boundary : Option Bytes) (rest : Bytes) :
    Content :=
  match boundary with
  | none => ⟨rest, encoding.decode rest, none⟩
  | some boundary =>
    match splitAt? (delimiter boundary) rest with
    | none => ⟨rest, none, none⟩
    | some (before, after) =>
      let decoded := match encoding with
        | .identity => some (wholeLines before)
        | .base64 => Base64.decode before
        | .quotedPrintable => QuotedPrintable.decodePart before
      ⟨wholeLines before, decoded, some after⟩

/-- Where a part goes whose content cannot be told: by its kind among alternatives and outside any
multipart, and otherwise nowhere. -/
def brokenPlacement (level : Level) (kind : PartKind) : Bool × Bool :=
  if level.kind = .alternative ∨ level.boundary.isNone then (kind = .htmlText, kind = .plainText)
  else (false, false)

def addPart (s : State) (headers : List Header) (kind : PartKind) (type : Option ContentType)
    (content : Content) : State :=
  let shown := content.decoded.isSome && isShownInline s.level kind headers type
  let level := settle s.level kind shown
  let (toHtml, toText) :=
    if content.decoded.isSome then placement level kind shown else brokenPlacement level kind
  let body := bodyOf kind type (content.decoded.getD content.raw)
  let draft := s.draft.addHeaders headers
  { s with
    level
    draft := { draft with
      htmlBody := if toHtml then draft.htmlBody ++ [body] else draft.htmlBody
      textBody := if toText then draft.textBody ++ [body] else draft.textBody } }

def readLeaf (s : State) (headers : List Header) (kind : PartKind) (type : Option ContentType)
    (rest : Bytes) : Step :=
  let encoding := TransferEncoding.ofName
    (((Header.find? headers "content-transfer-encoding").bind (·.text?)).map Text.encode |>.getD [])
  let content := Content.ofRest encoding s.level.boundary rest
  let s := addPart s headers kind type content
  match content.after with
  | some after => afterPart s after
  | none => .stop s

def isEncoded (headers : List Header) : Bool :=
  match (Header.find? headers "content-transfer-encoding").bind (·.text?) with
  | some name => TransferEncoding.ofName (Text.encode name) ≠ .identity
  | none => false

def enterMultipart (s : State) (headers : List Header) (kind : PartKind)
    (boundary : Bytes) : State :=
  let draft := s.draft.addHeaders headers
  { level :=
      { kind, boundary := some boundary
        inAlternative := s.level.inAlternative || kind == .alternative
        htmlBefore := draft.htmlBody.length, textBefore := draft.textBody.length
        needHtml := s.level.needHtml, needText := s.level.needText }
    draft
    frames := ⟨s.level, none⟩ :: s.frames }

def enterMessage (s : State) (headers : List Header) : State :=
  { level := { boundary := s.level.boundary }
    draft := {}
    frames := ⟨{ s.level with boundary := none }, some (s.draft.addHeaders headers)⟩ :: s.frames }

def readPart (s : State) (headers : List Header) (rest : Bytes) : Step :=
  let s := { s with level := { s.level with parts := s.level.parts + 1 } }
  let type := (Header.find? headers "content-type").bind fun h => ContentType.read? h.body
  let kind := PartKind.ofContentType s.level.kind type
  if kind.isMultipart then
    match type.bind (·.parameter? "boundary") with
    | none => readLeaf s headers kind type rest
    | some boundary =>
      let boundary := Text.encode boundary
      match splitAt? (delimiter boundary) rest with
      | some (_, after) => .readOn (enterMultipart s headers kind boundary) (skipLineEnd after)
      | none => readLeaf s headers .otherText type rest
  else if kind = .message ∧ ¬ isEncoded headers then .readOn (enterMessage s headers) rest
  else readLeaf s headers kind type rest

theorem length_after_ofRest {encoding : TransferEncoding} {boundary : Option Bytes}
    {rest after : Bytes} (h : (Content.ofRest encoding boundary rest).after = some after) :
    after.length ≤ rest.length := by
  simp only [Content.ofRest] at h
  split at h
  · simp at h
  · split at h
    · simp at h
    · rename_i hs
      simp only [Option.some.injEq] at h
      exact h ▸ length_splitAt? hs

theorem remaining_readLeaf (s : State) (headers : List Header) (kind : PartKind)
    (type : Option ContentType) (rest : Bytes) :
    (readLeaf s headers kind type rest).remaining ≤ rest.length := by
  simp only [readLeaf]
  split
  · rename_i h
    exact Nat.le_trans (remaining_afterPart _ _) (length_after_ofRest h)
  · simp [Step.remaining]

theorem remaining_readPart (s : State) (headers : List Header) (rest : Bytes) :
    (readPart s headers rest).remaining ≤ rest.length := by
  simp only [readPart]
  split
  · split
    · exact remaining_readLeaf ..
    · split
      · rename_i h
        exact Nat.le_trans (length_skipLineEnd _) (length_splitAt? h)
      · exact remaining_readLeaf ..
  · split
    · exact Nat.le_refl _
    · exact remaining_readLeaf ..

def outermost (s : State) : Draft := s.frames.foldl (fun d f => f.outer.getD d) s.draft

def finish (s : State) (headers : List Header) : Option Message :=
  let draft := outermost s
  match draft.headers with
  | some own => some (.ofParts own draft.textBody)
  | none => if headers.isEmpty then none else some (.ofParts headers [])

def walk (s : State) (input : Bytes) : Option Message :=
  match ha : Header.readAll input with
  | (headers, none) => finish s headers
  | (headers, some rest) =>
    match hp : readPart s headers rest with
    | .stop t => finish t []
    | .readOn t after =>
      have : after.length < input.length := by
        have h₁ : rest.length < input.length := Header.length_readAll (by rw [ha])
        have h₂ := remaining_readPart s headers rest
        simp only [hp, Step.remaining] at h₂
        omega
      walk t after
  termination_by input.length

end PartReader

def Message.parse? (input : Bytes) : Option Message := PartReader.walk {} input

end MailIndex.Mime
