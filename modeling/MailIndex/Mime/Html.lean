import MailIndex.Mime.Entity

namespace MailIndex.Mime.Html

/-- `token` is held backwards; `spaced` says that a blank is due before the next text, and `dashes`
counts those read last inside a comment. -/
structure Reader where
  out : List (List Char) := []
  token : List Char := []
  gap : List Char := []
  spaced : Bool := false
  inTag : Bool := false
  tagTokens : Nat := 0
  tagName : List Char := []
  closing : Bool := false
  hidden : Bool := false
  inComment : Bool := false
  dashes : Nat := 0

namespace Reader

def written (token : List Char) : List Char :=
  match token with
  | '&' :: rest =>
    if rest.getLast? = some ';' then
      match Entity.character? rest.dropLast with
      | some c => [c]
      | none => token
    else token
  | _ => token

def forget (r : Reader) : Reader := { r with token := [], gap := [] }

def hasText (r : Reader) : Bool := ! r.token.isEmpty && ! r.inTag && ! r.hidden

def flush (r : Reader) : Reader :=
  if r.hasText then
    let text := written r.token.reverse
    { r with out := (if r.spaced then ' ' :: text else text) :: r.out, spaced := false }.forget
  else r.forget

def blank (r : Reader) : Reader :=
  if r.hasText then { r with out := [' '] :: written r.token.reverse :: r.out }.forget
  else if r.inTag ∨ r.hidden then r.forget
  else { r with spaced := true }

def take (r : Reader) (c : Char) : Reader :=
  let token := c :: (if r.token.isEmpty then [] else r.gap ++ r.token)
  let tagTokens := if r.inTag ∧ r.token.isEmpty then r.tagTokens + 1 else r.tagTokens
  { r with
    token, tagTokens, gap := []
    tagName := if r.inTag ∧ tagTokens = 1 then token else r.tagName }

def hiddenTags : List (List Char) := ["head".toList, "style".toList, "script".toList]

def endTag (r : Reader) : Reader :=
  let name := r.tagName.reverse.map Char.toLower
  let r := { r with inTag := false }.forget
  if r.tagTokens ≠ 1 then r
  else if name ∈ hiddenTags then { r with hidden := ! r.closing }
  else if name = "br".toList ∨ (r.closing ∧ name = "p".toList) then
    { r with out := ['\n'] :: r.out, spaced := false }
  else r

def isSpace (c : Char) : Bool := c == ' ' || c == '\t' || c == '\r' || c == '\n'

/-- A comment ends after two hyphens and no more, those that open it counted. -/
def commentStep (r : Reader) (c : Char) : Reader :=
  if c = '-' then { r with dashes := r.dashes + 1 }
  else if c = '>' ∧ r.dashes = 2 then
    { r with dashes := 0, inComment := false, inTag := false }.forget
  else { r with dashes := 0 }

def step (r : Reader) (c : Char) (opensComment : Bool) : Reader :=
  if r.inComment then r.commentStep c
  else if c = '<' then
    { r.flush with inTag := true, tagTokens := 0, tagName := [], closing := false }
  else if c = '>' ∧ r.inTag then r.endTag
  else if c = '/' ∧ r.inTag then
    let r := if r.tagTokens = 0 then { r with closing := true } else r
    if r.token.isEmpty then r else { r with gap := c :: r.gap }
  else if c = '!' ∧ r.inTag ∧ r.tagTokens = 0 ∧ opensComment then { r with inComment := true }
  else if isSpace c then r.blank
  else if c = '&' ∧ ¬ r.inTag ∧ ¬ r.token.isEmpty then r.flush.take c
  else if c = ';' ∧ ¬ r.inTag ∧ ¬ r.token.isEmpty then (r.take c).flush
  else r.take c

def run (r : Reader) : List Char → Reader
  | [] => r
  | c :: rest => run (r.step c (['-', '-'].isPrefixOf rest)) rest

def finish (r : Reader) : Reader := { r with spaced := false }.flush

end Reader

def toText (s : List Char) : List Char := (Reader.run {} s).finish.out.reverse.flatten

end MailIndex.Mime.Html
