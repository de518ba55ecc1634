import MailIndex.Bytes
import MailIndex.Text.Blank
import MailIndex.Text.Uppercase

namespace MailIndex

inductive Field
  | body | headers | headerValue | recipient | cc | sender | bcc | baseSubject | sentDate | flags
  | firstSenderMailbox | firstToMailbox | firstCcMailbox | firstSenderDisplay | firstToDisplay
  deriving DecidableEq, Repr

namespace Field

/-- The octet that stands for the field in every row key; these never change. -/
def id : Field → UInt8
  | .body => 1
  | .headers => 2
  | .headerValue => 3
  | .recipient => 4
  | .cc => 5
  | .sender => 6
  | .bcc => 7
  | .baseSubject => 8
  | .sentDate => 9
  | .flags => 10
  | .firstSenderMailbox => 11
  | .firstToMailbox => 12
  | .firstCcMailbox => 13
  | .firstSenderDisplay => 14
  | .firstToDisplay => 15

def all : List Field :=
  [.body, .headers, .headerValue, .recipient, .cc, .sender, .bcc, .baseSubject, .sentDate, .flags,
    .firstSenderMailbox, .firstToMailbox, .firstCcMailbox, .firstSenderDisplay, .firstToDisplay]

def ofId? (id : UInt8) : Option Field := all.find? fun f => f.id = id

@[simp] theorem ofId?_id (f : Field) : ofId? f.id = some f := by cases f <;> decide

theorem id_inj {f g : Field} (h : f.id = g.id) : f = g := by
  have := congrArg ofId? h
  simpa using this

def name : Field → String
  | .body => "BODY"
  | .headers => "HEADERS"
  | .headerValue => "PREFIX_HEADER"
  | .recipient => "TO"
  | .cc => "CC"
  | .sender => "FROM"
  | .bcc => "BCC"
  | .baseSubject => "BASE_SUBJECT"
  | .sentDate => "SENT_DATE"
  | .flags => "FLAGS"
  | .firstSenderMailbox => "FIRST_FROM_NAME"
  | .firstToMailbox => "FIRST_TO_NAME"
  | .firstCcMailbox => "FIRST_CC_NAME"
  | .firstSenderDisplay => "FIRST_FROM_DISPLAY"
  | .firstToDisplay => "FIRST_TO_DISPLAY"

def ofHeader (header : String) : Field :=
  let h := String.ofList (Text.asciiLower (Text.trim header.toList))
  if h = "to" then .recipient
  else if h = "from" then .sender
  else if h = "cc" then .cc
  else if h = "bcc" then .bcc
  else if h = "subject" then .baseSubject
  else .headerValue

end Field

end MailIndex
