import Mathlib.Data.List.Forall2
import Mathlib.Data.List.Infix
import Mathlib.Data.List.TakeWhile
import Mathlib.Data.Set.Card

namespace MailIndex

variable {α : Type} {a b needle : List α} {x : α}

theorem infix_append_cons_iff (h : x ∉ needle) :
    needle <:+: a ++ x :: b ↔ needle <:+: a ∨ needle <:+: b := by
  have hstart : ∀ l, (∀ y ∈ l, y ∈ needle) → l <+: x :: b → l = [] := by
    intro l hl hl'
    cases l with
    | nil => rfl
    | cons y l =>
      obtain rfl := (List.cons_prefix_cons.1 hl').1
      exact absurd (hl y List.mem_cons_self) h
  rw [List.infix_append_iff, List.infix_cons_iff]
  constructor
  · rintro (h | (h | h) | ⟨l, r, rfl, hl, hr⟩)
    · exact .inl h
    · rw [hstart needle (fun _ => id) h]
      exact .inl List.nil_infix
    · exact .inr h
    · rw [hstart r (fun y => List.mem_append_right l) hr, List.append_nil]
      exact .inl hl.isInfix
  · rintro (h | h)
    · exact .inl h
    · exact .inr (.inl (.inr h))

theorem infix_append_flatMap_cons_iff {β : Type} (name : β → List α) (h : x ∉ needle) (fs : List β)
    (a rest : List α) :
    needle <:+: a ++ (fs.flatMap (fun f => x :: name f) ++ rest) ↔
      needle <:+: a ∨ (∃ f ∈ fs, needle <:+: name f) ∨
        needle <:+: (fs.getLast?.map name).getD a ++ rest := by
  -- `a` is the part before the next mark; each step of the induction closes it
  induction fs generalizing a with
  | nil =>
    simp only [List.flatMap_nil, List.nil_append, List.not_mem_nil, false_and, exists_false,
      false_or, List.getLast?_nil, Option.map_none, Option.getD_none]
    exact (or_iff_right_of_imp fun ha => ha.trans (List.prefix_append a rest).isInfix).symm
  | cons f fs ih =>
    have hlast : ((f :: fs).getLast?.map name).getD a = (fs.getLast?.map name).getD (name f) := by
      rw [List.getLast?_cons]
      cases fs.getLast? <;> rfl
    rw [List.flatMap_cons, List.append_assoc, List.cons_append, infix_append_cons_iff h, ih, hlast]
    simp only [List.mem_cons, exists_eq_or_imp, or_assoc]

theorem append_eq_append_cons_iff {c d : List α} (h : x ∉ a) :
    a ++ b = c ++ x :: d ↔ ∃ between, c = a ++ between ∧ b = between ++ x :: d := by
  constructor
  · intro heq
    rcases List.append_eq_append_iff.1 heq with ⟨between, rfl, hb⟩ | ⟨extra, rfl, hextra⟩
    · exact ⟨between, rfl, hb⟩
    · cases extra with
      | nil => exact ⟨[], by simp, hextra.symm⟩
      | cons y extra =>
        obtain ⟨rfl, -⟩ := List.cons.inj hextra
        exact absurd (by simp) h
  · rintro ⟨between, rfl, rfl⟩
    rw [List.append_assoc]

theorem cons_infix_append_iff (h : x ∉ a) : x :: needle <:+: a ++ b ↔ x :: needle <:+: b := by
  constructor
  · rintro ⟨left, right, heq⟩
    rw [List.append_assoc, List.cons_append] at heq
    obtain ⟨between, -, rfl⟩ := (append_eq_append_cons_iff h).1 heq.symm
    exact ⟨between, right, by simp⟩
  · exact fun hb => hb.trans (List.suffix_append a b).isInfix

theorem map_intercalate_eq_flatMap {β : Type} {f : List α → List β} (hnil : f [] = [])
    (hcut : ∀ a b, f (a ++ x :: b) = f a ++ f b) (parts : List (List α)) :
    f ([x].intercalate parts) = parts.flatMap f := by
  induction parts with
  | nil => exact hnil
  | cons part parts ih =>
    cases parts with
    | nil => rw [List.intercalate_singleton, List.flatMap_singleton]
    | cons next parts =>
      rw [List.intercalate_cons_cons, List.append_assoc, List.singleton_append, hcut, ih]
      exact List.flatMap_cons.symm

theorem dropWhile_eq_self_of_prefix {p : α → Bool} (h : a <+: b) (hb : b.dropWhile p = b) :
    a.dropWhile p = a := by
  obtain ⟨rest, rfl⟩ := h
  rw [List.dropWhile_eq_self_iff] at hb ⊢
  intro ha
  have hfirst := hb (List.length_append ▸ Nat.add_pos_left ha _)
  rwa [List.getElem_append_left ha] at hfirst

theorem dropWhile_infix_dropWhile (p : α → Bool) (h : a <:+: b) :
    a.dropWhile p <:+: b.dropWhile p := by
  induction b generalizing a with
  | nil =>
    rw [List.infix_nil.1 h]
  | cons y b ih =>
    rw [List.dropWhile_cons]
    split
    · rename_i hy
      rcases List.infix_cons_iff.1 h with h | h
      · cases a with
        | nil => exact List.nil_infix
        | cons x a =>
          obtain ⟨rfl, hrest⟩ := List.cons_prefix_cons.1 h
          rw [List.dropWhile_cons, if_pos hy]
          exact ih hrest.isInfix
      · exact ih h
    · exact (List.dropWhile_suffix p).isInfix.trans h

theorem forall₂_of_mapM_eq_ok {β ε : Type} {f : α → Except ε β} {l : List α} {results : List β}
    (h : l.mapM f = .ok results) : List.Forall₂ (fun a b => f a = .ok b) l results := by
  induction l generalizing results with
  | nil =>
    cases h
    exact .nil
  | cons a l ih =>
    rw [List.mapM_cons] at h
    cases ha : f a with
    | error cause =>
      rw [ha] at h
      cases h
    | ok b =>
      cases hl : l.mapM f with
      | error cause =>
        rw [ha, hl] at h
        cases h
      | ok rest =>
        rw [ha, hl] at h
        cases h
        exact .cons ha (ih hl)

theorem mapM_eq_ok_iff_forall₂ {β ε : Type} {f : α → Except ε β} {l : List α} {results : List β} :
    l.mapM f = .ok results ↔ List.Forall₂ (fun a b => f a = .ok b) l results := by
  refine ⟨forall₂_of_mapM_eq_ok, fun h => ?_⟩
  induction h with
  | nil => rfl
  | cons ha _ ih =>
    rw [List.mapM_cons, ha, ih]
    rfl

theorem mem_of_mapM_eq_ok {β ε : Type} {f : α → Except ε β} {l : List α} {results : List β}
    (h : l.mapM f = .ok results) {b : β} : b ∈ results ↔ ∃ a ∈ l, f a = .ok b := by
  have hall := forall₂_of_mapM_eq_ok h
  clear h
  induction hall with
  | nil => simp
  | cons ha _ ih =>
    simp only [List.mem_cons, exists_eq_or_imp, ha, ih, Except.ok.injEq, @eq_comm _ b]

theorem exists_mapM_eq_ok_iff {β ε : Type} {f : α → Except ε β} {l : List α} :
    (∃ results, l.mapM f = .ok results) ↔ ∀ a ∈ l, ∃ b, f a = .ok b := by
  constructor
  · rintro ⟨results, h⟩
    have hall := forall₂_of_mapM_eq_ok h
    clear h
    induction hall with
    | nil => exact nofun
    | cons ha _ ih => exact List.forall_mem_cons.2 ⟨⟨_, ha⟩, ih⟩
  · intro h
    induction l with
    | nil => exact ⟨[], rfl⟩
    | cons a l ih =>
      obtain ⟨⟨b, hb⟩, hrest⟩ := List.forall_mem_cons.1 h
      obtain ⟨results, hresults⟩ := ih hrest
      rw [List.mapM_cons, hb, hresults]
      exact ⟨b :: results, rfl⟩

theorem mapM_append_cons_eq_error {β ε : Type} {f : α → Except ε β} {before after : List α} {c : α}
    {cause : ε} (h : ∀ b ∈ before, ∃ result, f b = .ok result) (hc : f c = .error cause) :
    (before ++ c :: after).mapM f = .error cause := by
  induction before with
  | nil =>
    rw [List.nil_append, List.mapM_cons, hc]
    rfl
  | cons b before ih =>
    obtain ⟨⟨result, hresult⟩, hrest⟩ := List.forall_mem_cons.1 h
    rw [List.cons_append, List.mapM_cons, hresult, ih hrest]
    rfl

theorem ncard_mem_of_nodup {l : List α} (h : l.Nodup) : {a | a ∈ l}.ncard = l.length := by
  classical
  rw [← List.toFinset_card_of_nodup h, ← Set.ncard_coe_finset, List.coe_toFinset]

theorem length_eq_ncard_mem_iff {l : List α} : l.length = {a | a ∈ l}.ncard ↔ l.Nodup := by
  classical
  constructor
  · intro h
    rw [← List.coe_toFinset, Set.ncard_coe_finset, List.card_toFinset] at h
    exact List.dedup_eq_self.1 ((List.dedup_sublist l).eq_of_length h.symm)
  · exact fun h => (ncard_mem_of_nodup h).symm

end MailIndex
