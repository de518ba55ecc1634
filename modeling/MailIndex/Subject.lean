import MailIndex.Text.Blank

namespace MailIndex

namespace Subject

open Text

def replyMarkers : List (List Char) := ["re:".toList, "fw:".toList, "fwd:".toList]

def forwardTrailer : List Char := "(fwd)".toList

def startsWith (mark s : List Char) : Bool := mark.isPrefixOf (s.map Char.toLower)

def dropMarker (s : List Char) : List Char :=
  match replyMarkers.find? fun m => startsWith m s with
  | some m => trimStart (s.drop m.length)
  | none => s

/-- A tag in brackets goes only if something is left after it. -/
def dropTag (s : List Char) : List Char :=
  match s with
  | '[' :: _ =>
    match trimStart ((s.dropWhile (· ≠ ']')).drop 1) with
    | [] => s
    | rest => rest
  | _ => s

def dropTrailer (s : List Char) : List Char :=
  if startsWith forwardTrailer.reverse s.reverse then trimEnd (s.take (s.length - 5)) else s

def round (s : List Char) : List Char := dropTrailer (dropTag (dropMarker s))

def rounds (s : List Char) : List Char :=
  if (round s).length < s.length then rounds (round s) else s
  termination_by s.length

def baseChars (s : List Char) : List Char := rounds (trim s)

end Subject

def baseSubject (s : String) : String := String.ofList (Subject.baseChars s.toList)

end MailIndex
