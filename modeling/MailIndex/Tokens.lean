import MailIndex.Term
import MailIndex.Text.Alphanumeric
import MailIndex.Text.Blank

namespace MailIndex

namespace Tokens

open Text

/-- The marks that stay inside a token, as in addresses and host names, but not at its ends. -/
def isJoiner (c : Char) : Bool :=
  c == '@' || c == '.' || c == '-' || c == '_' || c == '+' || c == '\x27'

def isTokenChar (c : Char) : Bool := isAlphanumeric c || isJoiner c

def trimJoiners (s : List Char) : List Char :=
  ((s.dropWhile isJoiner).reverse.dropWhile isJoiner).reverse

def ofChars (s : List Char) : List (List Char) :=
  ((splitOn (fun c => ! isTokenChar c) s).map trimJoiners).filter (· ≠ [])

end Tokens

def tokenize (s : String) : List Term := (Tokens.ofChars s.toList).map Term.ofChars

end MailIndex
