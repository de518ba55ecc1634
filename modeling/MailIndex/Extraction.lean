import MailIndex.Mime.Message
import MailIndex.Postings
import MailIndex.Subject

namespace MailIndex

namespace Extraction

open Mime

def unfold : List Char → List Char
  | [] => []
  | '\r' :: '\n' :: rest => ' ' :: unfold rest
  | c :: rest => (if c = '\n' then ' ' else c) :: unfold rest

def headerValue (h : Header) : List Char := Text.trim (unfold (Text.decodeLossy h.body))

def addHeader (ps : Postings) (h : Header) : Postings :=
  let value := headerValue h
  let line := String.ofList (Text.decodeLossy h.name ++ ':' :: ' ' :: value)
  (ps.addText .headers line).addText .headerValue (String.ofList value)

def written (a : Address) : Option String :=
  match a.name, a.mailbox with
  | some n, some m => some (n ++ " <" ++ m ++ ">")
  | none, some m => some m
  | some n, none => some n
  | none, none => none

def addAddresses (ps : Postings) (field : Field) (l : AddressList) : Postings :=
  (l.toList.filterMap written).foldl (fun ps text => ps.addText field text) ps

def firstMailbox? (l : AddressList) : Option (String × String) := do
  let a ← l.first?
  let mailbox ← a.mailbox
  let display := (a.name.filter fun n => Text.trim n.toList ≠ []).getD mailbox
  return (mailbox, display)

def addFirst (ps : Postings) (mailboxField : Field) (displayField : Option Field)
    (l : AddressList) : Postings :=
  match firstMailbox? l with
  | none => ps
  | some (mailbox, display) =>
    let ps := ps.add mailboxField (.ofText mailbox)
    match displayField with
    | some f => ps.add f (.ofText display)
    | none => ps

def addSubject (ps : Postings) (m : Message) : Postings :=
  match m.subject? with
  | none => ps
  | some s =>
    match Subject.baseChars s with
    | [] => ps
    | base => ps.add .baseSubject (.ofChars base)

/-- The texts of the text body up to the first part that has none. -/
def bodyTexts (m : Message) : List (List Char) :=
  (m.textBody.takeWhile Option.isSome).filterMap id

def ofMessage (m : Message) (date : Millis) : Postings :=
  let ps : Postings := m.headers.foldl addHeader ∅
  let ps := addAddresses ps .sender m.sender
  let ps := addAddresses ps .recipient m.recipients
  let ps := addAddresses ps .cc m.cc
  let ps := addAddresses ps .bcc m.bcc
  let ps := addFirst ps .firstSenderMailbox (some .firstSenderDisplay) m.sender
  let ps := addFirst ps .firstToMailbox (some .firstToDisplay) m.recipients
  let ps := addFirst ps .firstCcMailbox none m.cc
  let ps := addSubject ps m
  let ps := (bodyTexts m).foldl (fun ps text => ps.addText .body (String.ofList text)) ps
  ps.add .sentDate (.sentDate date)

end Extraction

def extractWith? (parse : Bytes → Option Mime.Message) (raw : Bytes) (date : Millis) :
    Option Postings :=
  (parse raw).map fun m => Extraction.ofMessage m date

def extract? : Bytes → Millis → Option Postings := extractWith? Mime.Message.parse?

end MailIndex
