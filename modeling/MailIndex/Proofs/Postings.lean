import MailIndex.Postings
import MailIndex.Proofs.Order

namespace MailIndex.Postings

variable {ps : Postings} {f g : Field} {t : Term}

theorem mem_termsOf : t ∈ ps.termsOf f ↔ ⟨f, t⟩ ∈ ps.toList := by
  simp only [termsOf, SortedSet.toList, List.mem_map, List.mem_filter, decide_eq_true_eq]
  constructor
  · rintro ⟨p, ⟨hp, rfl⟩, rfl⟩
    exact hp
  · intro h
    exact ⟨⟨f, t⟩, ⟨h, rfl⟩, rfl⟩

theorem mem_termsOf_add {s : Term} :
    t ∈ (ps.add g s).termsOf f ↔ (f = g ∧ t = s) ∨ t ∈ ps.termsOf f := by
  rw [mem_termsOf, add, SortedSet.mem_toList_insert, Posting.mk.injEq, mem_termsOf]

theorem mem_termsOf_addText {text : String} :
    t ∈ (ps.addText g text).termsOf f ↔ (f = g ∧ t ∈ tokenize text) ∨ t ∈ ps.termsOf f := by
  rw [mem_termsOf, addText, addTerms, SortedSet.mem_toList_insertAll, mem_termsOf]
  refine or_congr_left ?_
  simp only [List.mem_map, Posting.mk.injEq]
  constructor
  · rintro ⟨s, hs, rfl, rfl⟩
    exact ⟨rfl, hs⟩
  · rintro ⟨rfl, ht⟩
    exact ⟨t, ht, rfl, rfl⟩

def HasText (ps : Postings) (f : Field) (text : String) : Prop :=
  ∃ before more, ps = SortedSet.insertAll (addText before f text) more

theorem hasText_addText (ps : Postings) (f : Field) (text : String) :
    (ps.addText f text).HasText f text := ⟨ps, [], rfl⟩

theorem HasText.mem {text : String} (h : ps.HasText f text) (ht : t ∈ tokenize text) :
    ⟨f, t⟩ ∈ ps.toList := by
  obtain ⟨before, more, rfl⟩ := h
  exact SortedSet.mem_toList_insertAll.2
    (.inr (mem_termsOf.1 (mem_termsOf_addText.2 (.inl ⟨rfl, ht⟩))))

theorem mem_termsOf_foldl {α : Type} {step : Postings → α → Postings}
    (h : ∀ ps a, t ∈ (step ps a).termsOf f ↔ t ∈ ps.termsOf f) (l : List α) :
    t ∈ (l.foldl step ps).termsOf f ↔ t ∈ ps.termsOf f := by
  induction l generalizing ps with
  | nil => rfl
  | cons a l ih => exact ih.trans (h ps a)

theorem mem_termsOf_foldl_addText {α : Type} (text : α → String) (l : List α) :
    t ∈ (l.foldl (fun ps a => ps.addText g (text a)) ps).termsOf f ↔
      (f = g ∧ ∃ a ∈ l, t ∈ tokenize (text a)) ∨ t ∈ ps.termsOf f := by
  induction l generalizing ps with
  | nil => simp
  | cons a l ih =>
    rw [List.foldl_cons, ih, mem_termsOf_addText, ← or_assoc, ← and_or_left]
    simp only [List.mem_cons, exists_eq_or_imp, or_comm]

@[simp] theorem termsOf_empty : (∅ : Postings).termsOf f = [] := rfl

end MailIndex.Postings
