import MailIndex.Unicode.Age
import MailIndex.Unicode.Binary
import MailIndex.Unicode.Break
import MailIndex.Unicode.Script

namespace MailIndex.Unicode

open Text

/-- The form in which names are compared. An "is" in front counts for nothing, unless a lone "c"
follows. -/
def plainName (s : List Char) : String :=
  let (hasIs, s) := match s with
    | a :: b :: rest =>
      if (a == 'i' || a == 'I') && (b == 's' || b == 'S') then (true, rest)
      else (false, a :: b :: rest)
    | s => (false, s)
  let kept := s.filter fun c => c.toNat < 128 && c != ' ' && c != '_' && c != '-'
  let name := String.ofList (kept.map Char.toLower)
  if hasIs && name == "c" then "isc" else name

/-- A property that a character has or has not, a category, or a script. Three names of categories
are names of other properties too. -/
def property? (name : List Char) : Option Bands :=
  let name := plainName name
  let ofCategory := (category? name).or (script? name)
  if name = "cf" || name = "sc" || name = "lc" then ofCategory
  else (binary? name).or ofCategory

def propertyValue? (name value : List Char) : Option Bands :=
  let value := plainName value
  match plainName name with
  | "gc" | "generalcategory" => category? value
  | "sc" | "script" => script? value
  | "scx" | "scriptextensions" => scriptExtension? value
  | "age" => age? value
  | "gcb" | "graphemeclusterbreak" => findDerived? graphemeBreakTable value
  | "wb" | "wordbreak" => findDerived? wordBreakTable value
  | "sb" | "sentencebreak" => findDerived? sentenceBreakTable value
  | _ => none

end MailIndex.Unicode
