import MailIndex.Field
import MailIndex.Order
import MailIndex.Tokens

namespace MailIndex

structure Posting where
  field : Field
  term : Term
  deriving DecidableEq, Repr

namespace Posting

def key (p : Posting) : Bytes := p.field.id :: p.term.bytes

theorem key_inj {p q : Posting} (h : p.key = q.key) : p = q := by
  obtain ⟨f, ⟨s⟩⟩ := p
  obtain ⟨g, ⟨t⟩⟩ := q
  obtain ⟨hf, rfl⟩ := List.cons.inj h
  cases Field.id_inj hf
  rfl

instance : LT Posting := ⟨fun p q => p.key < q.key⟩

instance : DecidableLT Posting := fun p q => inferInstanceAs (Decidable (p.key < q.key))

instance : StrictTotal Posting := .ofKey key (fun _ _ => Iff.rfl) fun _ _ => key_inj

end Posting

abbrev Postings := SortedSet Posting

namespace Postings

def add (ps : Postings) (field : Field) (term : Term) : Postings :=
  SortedSet.insert ps ⟨field, term⟩

def addTerms (ps : Postings) (field : Field) (terms : List Term) : Postings :=
  SortedSet.insertAll ps (terms.map fun t => ⟨field, t⟩)

def addText (ps : Postings) (field : Field) (text : String) : Postings :=
  ps.addTerms field (tokenize text)

def termsOf (ps : Postings) (field : Field) : List Term :=
  (ps.keys.filter (·.field = field)).map (·.term)

def fields (ps : Postings) : List Field := Field.all.filter fun f => ! (ps.termsOf f).isEmpty

end Postings

end MailIndex
