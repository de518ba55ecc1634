import MailIndex.Mime.Transfer

namespace MailIndex.Mime.FieldName

def registered : List String := [
  "Subject", "From", "To", "Cc", "Date", "Bcc", "Reply-To", "Sender", "Comments", "In-Reply-To",
  "Keywords", "Received", "Message-ID", "References", "Return-Path", "MIME-Version",
  "Content-Description", "Content-ID", "Content-Language", "Content-Location",
  "Content-Transfer-Encoding", "Content-Type", "Content-Disposition", "Resent-To", "Resent-From",
  "Resent-Bcc", "Resent-Cc", "Resent-Sender", "Resent-Date", "Resent-Message-ID", "List-Archive",
  "List-Help", "List-ID", "List-Owner", "List-Post", "List-Subscribe", "List-Unsubscribe",
  "ARC-Authentication-Results", "ARC-Message-Signature", "ARC-Seal", "DKIM-Signature"]

def trimSpace (line : Bytes) : Bytes :=
  ((line.dropWhile isSpace).reverse.dropWhile isSpace).reverse

def registered? (written : Bytes) : Option Bytes :=
  let letters := Bytes.lowerAscii (written.filter fun b => ! isSpace b)
  (registered.map Bytes.ofAscii).find? fun name => name.lowerAscii = letters

def ofWritten (written : Bytes) : Bytes := (registered? written).getD (trimSpace written)

end MailIndex.Mime.FieldName
