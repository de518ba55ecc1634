import MailIndex.Proofs.List
import MailIndex.Text.Blank

namespace MailIndex.Text

variable {sep : Char → Bool} {s needle piece : List Char}

theorem splitOn_eq_splitOnP (sep : Char → Bool) (s : List Char) :
    splitOn sep s = s.splitOnP sep := by
  induction s with
  | nil => rfl
  | cons c s ih =>
    obtain ⟨piece, pieces, hs⟩ := List.exists_cons_of_ne_nil (List.splitOnP_ne_nil sep s)
    rw [splitOn, ih, List.splitOnP_cons_eq_if_modifyHead, hs]
    split <;> simp_all

theorem splitOn_eq_singleton (h : ∀ c ∈ s, sep c = false) : splitOn sep s = [s] := by
  rw [splitOn_eq_splitOnP, List.splitOnP_eq_singleton h]

theorem splitOn_append_separator {before after : List Char} {c : Char} (hc : sep c = true) :
    splitOn sep (before ++ c :: after) = splitOn sep before ++ splitOn sep after := by
  simp only [splitOn_eq_splitOnP]
  exact List.splitOnP_append_cons before after hc

theorem splitOn_append_cons {before after : List Char} {c : Char}
    (h : ∀ x ∈ before, sep x = false) (hc : sep c = true) :
    splitOn sep (before ++ c :: after) = before :: splitOn sep after := by
  rw [splitOn_append_separator hc, splitOn_eq_singleton h]
  rfl

/-- A text is one piece, or its first piece comes to an end at a separator. -/
@[elab_as_elim]
theorem split_induction (sep : Char → Bool) {motive : List Char → Prop}
    (whole : ∀ s, (∀ c ∈ s, sep c = false) → motive s)
    (cut : ∀ before c after, (∀ x ∈ before, sep x = false) → sep c = true → motive after →
      motive (before ++ c :: after)) (s : List Char) : motive s := by
  cases hfind : s.find? sep with
  | none => exact whole s fun c hc => Bool.eq_false_iff.2 (List.find?_eq_none.1 hfind c hc)
  | some c =>
    obtain ⟨hc, before, after, rfl, hbefore⟩ := List.find?_eq_some_iff_append.1 hfind
    refine cut before c after (fun x hx => by simpa using hbefore x hx) hc ?_
    exact split_induction sep whole cut after
  termination_by s.length

theorem forall_mem_of_mem_splitOn (h : piece ∈ splitOn sep s) : ∀ c ∈ piece, sep c = false := by
  induction s using split_induction sep with
  | whole s hs =>
    rw [splitOn_eq_singleton hs, List.mem_singleton] at h
    exact h ▸ hs
  | cut before c after hbefore hc ih =>
    rw [splitOn_append_cons hbefore hc, List.mem_cons] at h
    rcases h with rfl | h
    · exact hbefore
    · exact ih h

theorem splitOn_ne_nil (sep : Char → Bool) (s : List Char) : splitOn sep s ≠ [] := by
  rw [splitOn_eq_splitOnP]
  exact List.splitOnP_ne_nil sep s

theorem intercalate_splitOn (c : Char) (s : List Char) :
    [c].intercalate (splitOn (· = c) s) = s := by
  induction s using split_induction (· = c) with
  | whole s hs => rw [splitOn_eq_singleton hs, List.intercalate_singleton]
  | cut before x after hbefore hx ih =>
    obtain rfl : x = c := of_decide_eq_true hx
    obtain ⟨piece, pieces, hafter⟩ := List.exists_cons_of_ne_nil (splitOn_ne_nil (· = x) after)
    rw [splitOn_append_cons hbefore hx]
    rw [hafter] at ih ⊢
    rw [List.intercalate_cons_cons, ih, List.append_assoc]
    rfl

theorem infix_iff_exists_mem_splitOn (h : ∀ c ∈ needle, sep c = false) :
    needle <:+: s ↔ ∃ piece ∈ splitOn sep s, needle <:+: piece := by
  induction s using split_induction sep with
  | whole s hs =>
    rw [splitOn_eq_singleton hs]
    simp
  | cut before c after hbefore hc ih =>
    have hmark : c ∉ needle := fun hmem => by simp [h c hmem] at hc
    rw [splitOn_append_cons hbefore hc, infix_append_cons_iff hmark, ih]
    simp

theorem infix_of_mem_splitOn (h : piece ∈ splitOn sep s) : piece <:+: s :=
  (infix_iff_exists_mem_splitOn (forall_mem_of_mem_splitOn h)).2 ⟨piece, h, List.infix_refl _⟩

theorem splitOn_map {f : Char → Char} (h : ∀ c, sep (f c) = sep c) (s : List Char) :
    splitOn sep (s.map f) = (splitOn sep s).map (List.map f) := by
  induction s using split_induction sep with
  | whole s hs =>
    have hmap : ∀ c ∈ s.map f, sep c = false := by
      simpa [h] using hs
    rw [splitOn_eq_singleton hs, splitOn_eq_singleton hmap]
    rfl
  | cut before c after hbefore hc ih =>
    have hmap : ∀ x ∈ before.map f, sep x = false := by
      simpa [h] using hbefore
    rw [splitOn_append_cons hbefore hc, List.map_append, List.map_cons,
      splitOn_append_cons hmap ((h c).trans hc), ih]
    rfl

end MailIndex.Text
