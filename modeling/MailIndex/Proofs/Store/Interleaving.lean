import MailIndex.Proofs.Store.Confined

namespace MailIndex

open MemoryStore (AgreeOn)

/-- Whether a store holds what two others hold in their own cells, and what a third holds in the
rest. -/
structure MemoryStore.Joins (area area' : CellAddress → Prop) (s s₁ s₂ s₀ : MemoryStore) :
    Prop where
  left : AgreeOn area s s₁
  right : AgreeOn area' s s₂
  rest : AgreeOn (fun a => ¬ area a ∧ ¬ area' a) s s₀

namespace MemoryStore.Joins

variable {area area' : CellAddress → Prop} {s s₁ s₂ s₀ t : MemoryStore}

theorem refl (area area' : CellAddress → Prop) (s : MemoryStore) : Joins area area' s s s s :=
  ⟨.refl _ s, .refl _ s, .refl _ s⟩

theorem symm (h : Joins area area' s s₁ s₂ s₀) : Joins area' area s s₂ s₁ s₀ :=
  ⟨h.right, h.left, h.rest.mono fun _ ha => ha.symm⟩

theorem find?_eq (h : Joins area area' s s₁ s₂ s₀) (h' : Joins area area' t s₁ s₂ s₀)
    (a : CellAddress) : s.find? a = t.find? a := by
  by_cases ha : area a
  · exact (h.left.trans h'.left.symm) a ha
  · by_cases ha' : area' a
    · exact (h.right.trans h'.right.symm) a ha'
    · exact (h.rest.trans h'.rest.symm) a ⟨ha, ha'⟩

theorem change_left (h : Joins area area' s s₁ s₂ s₀) (hdisjoint : ∀ a, area a → ¬ area' a)
    {t₁ : MemoryStore} (hleft : AgreeOn area t t₁) (helse : AgreeOn (¬ area ·) s t) :
    Joins area area' t t₁ s₂ s₀ where
  left := hleft
  right := (helse.symm.mono fun a ha' ha => hdisjoint a ha ha').trans h.right
  rest := (helse.symm.mono fun _ ha => ha.1).trans h.rest

end MemoryStore.Joins

namespace Script

open MemoryStore (Joins)

variable {α β σ : Type} [RowStore σ]

/-- Calls of two pieces of work in turns, those of the first where it says `true`; what is left of
both when the turns end is done in order. -/
def interleave : (turns : List Bool) → Script α → Script β → σ → (α × β) × σ
  | [], x, y, s => (((x.run s).1, (y.run (x.run s).2).1), (y.run (x.run s).2).2)
  | true :: turns, x, y, s => interleave turns (x.step s).1 y (x.step s).2
  | false :: turns, x, y, s => interleave turns x (y.step s).1 (y.step s).2

section Apart

variable {area area' : CellAddress → Prop} {x : Script α} {y : Script β}
  {s s₁ s₂ s₀ : MemoryStore} (hdisjoint : ∀ a, area a → ¬ area' a)
include hdisjoint

theorem interleave_eq (hx : x.Confined area) (hy : y.Confined area') (turns : List Bool)
    (h : Joins area area' s s₁ s₂ s₀) :
    (interleave turns x y s).1 = ((x.run s₁).1, (y.run s₂).1) ∧
      Joins area area' (interleave turns x y s).2 (x.run s₁).2 (y.run s₂).2 s₀ := by
  have hdisjoint' : ∀ a, area' a → ¬ area a := fun a ha' ha => hdisjoint a ha ha'
  -- each piece of work keeps a store of its own, on which it is alone
  induction turns generalizing x y s s₁ s₂ with
  | nil =>
    obtain ⟨hanswer, hleft⟩ := hx.run_congr s h.left
    have hbetween := h.change_left hdisjoint hleft (hx.agreeOn_run s)
    obtain ⟨hanswer', hright⟩ := hy.run_congr (x.run s).2 hbetween.right
    have hafter := hbetween.symm.change_left hdisjoint' hright (hy.agreeOn_run _)
    exact ⟨Prod.ext hanswer hanswer', hafter.symm⟩
  | cons turn turns ih =>
    cases turn with
    | true =>
      obtain ⟨hnext, hleft⟩ := hx.step_congr s h.left
      have hafter := h.change_left hdisjoint hleft (hx.agreeOn_step s)
      rw [← run_step x s₁, ← hnext]
      exact ih (hx.step s) hy hafter
    | false =>
      obtain ⟨hnext, hright⟩ := hy.step_congr s h.right
      have hafter := (h.symm.change_left hdisjoint' hright (hy.agreeOn_step s)).symm
      rw [← run_step y s₂, ← hnext]
      exact ih hx (hy.step s) hafter

end Apart

end Script

end MailIndex
