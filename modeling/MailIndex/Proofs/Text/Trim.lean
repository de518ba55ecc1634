import Mathlib.Data.List.DropRight
import Mathlib.Data.List.Infix
import MailIndex.Proofs.List
import MailIndex.Proofs.Text.Uppercase
import MailIndex.Text.Blank

namespace MailIndex.Text

variable {a b s : List Char} {c : Char}

structure Trimmed (s : List Char) : Prop where
  trimStart_eq : trimStart s = s
  trimEnd_eq : trimEnd s = s

theorem trimStart_isSuffix (s : List Char) : trimStart s <:+ s := List.dropWhile_suffix isBlank

theorem trimEnd_isPrefix (s : List Char) : trimEnd s <+: s := List.rdropWhile_prefix isBlank s

theorem trim_isInfix (s : List Char) : trim s <:+: s :=
  (trimEnd_isPrefix _).isInfix.trans (trimStart_isSuffix s).isInfix

theorem trimStart_trimStart (s : List Char) : trimStart (trimStart s) = trimStart s :=
  List.dropWhile_idempotent isBlank s

theorem trimEnd_trimEnd (s : List Char) : trimEnd (trimEnd s) = trimEnd s :=
  List.rdropWhile_idempotent isBlank s

theorem trimStart_eq_nil_iff : trimStart s = [] ↔ ∀ c ∈ s, isBlank c = true :=
  List.dropWhile_eq_nil_iff

theorem trimEnd_eq_nil_iff : trimEnd s = [] ↔ ∀ c ∈ s, isBlank c = true :=
  List.rdropWhile_eq_nil_iff

theorem trimStart_reverse (s : List Char) : trimStart s.reverse = (trimEnd s).reverse := by
  rw [trimEnd, List.reverse_reverse]
  rfl

theorem trimEnd_eq_self_iff : trimEnd s = s ↔ trimStart s.reverse = s.reverse := by
  rw [trimStart_reverse, List.reverse_inj]

theorem trimStart_cons_of_not (h : isBlank c = false) : trimStart (c :: s) = c :: s := by
  simp [trimStart, h]

theorem trimStart_append_of_blank (h : ∀ c ∈ a, isBlank c = true) :
    trimStart (a ++ b) = trimStart b := List.dropWhile_append_of_pos h

theorem trimStart_append (h : trimStart b = b) : trimStart (a ++ b) = trimStart a ++ b := by
  induction a with
  | nil => exact h
  | cons c a ih =>
    rw [trimStart, trimStart, List.cons_append, List.dropWhile_cons, List.dropWhile_cons]
    split
    · exact ih
    · rfl

theorem trimEnd_append (h : trimEnd a = a) : trimEnd (a ++ b) = a ++ trimEnd b := by
  rw [← List.reverse_inj, ← trimStart_reverse, List.reverse_append,
    trimStart_append (trimEnd_eq_self_iff.1 h), List.reverse_append, trimStart_reverse]

theorem trimEnd_concat_of_not (h : isBlank c = false) : trimEnd (s ++ [c]) = s ++ [c] := by
  simp [trimEnd, h]

theorem trimEnd_append_cons (h : isBlank c = false) :
    trimEnd (a ++ c :: b) = a ++ c :: trimEnd b := by
  rw [List.append_cons, trimEnd_append (trimEnd_concat_of_not h), List.append_assoc]
  rfl

theorem not_isBlank_of_trimStart_cons (h : trimStart (c :: s) = c :: s) : isBlank c = false := by
  refine Bool.eq_false_iff.2 fun hc => ?_
  rw [trimStart, List.dropWhile_cons, if_pos hc] at h
  have hlength := (List.dropWhile_suffix isBlank (l := s)).length_le
  rw [h, List.length_cons] at hlength
  omega

theorem trimStart_of_isPrefix (h : a <+: b) (hb : trimStart b = b) : trimStart a = a :=
  dropWhile_eq_self_of_prefix h hb

theorem trimEnd_of_isSuffix (h : a <:+ b) (hb : trimEnd b = b) : trimEnd a = a :=
  trimEnd_eq_self_iff.2 (trimStart_of_isPrefix (List.reverse_prefix.2 h) (trimEnd_eq_self_iff.1 hb))

theorem exists_gap (s : List Char) :
    ∃ gap, (∀ c ∈ gap, isBlank c = true) ∧ gap ++ trimStart s = s :=
  ⟨s.takeWhile isBlank, fun _ => List.mem_takeWhile_imp, List.takeWhile_append_dropWhile⟩

theorem exists_gap_end (s : List Char) :
    ∃ gap, (∀ c ∈ gap, isBlank c = true) ∧ trimEnd s ++ gap = s := by
  obtain ⟨gap, hgap, hs⟩ := exists_gap s.reverse
  refine ⟨gap.reverse, by simpa using hgap, ?_⟩
  rw [← List.reverse_inj, List.reverse_append, List.reverse_reverse, ← trimStart_reverse, hs]

theorem trimStart_trimEnd (s : List Char) : trimStart (trimEnd s) = trimEnd (trimStart s) := by
  obtain ⟨gap, hgap, hs⟩ := exists_gap s
  cases hcore : trimStart s with
  | nil =>
    have hnil : trimEnd s = [] := trimEnd_eq_nil_iff.2 (trimStart_eq_nil_iff.1 hcore)
    rw [hnil]
    rfl
  | cons c core =>
    have hc : trimStart (c :: core) = c :: core := hcore ▸ trimStart_trimStart s
    have hstart : trimStart (c :: trimEnd core) = c :: trimEnd core :=
      trimStart_of_isPrefix (List.cons_prefix_cons.2 ⟨rfl, trimEnd_isPrefix core⟩) hc
    have hnot : isBlank c = false := not_isBlank_of_trimStart_cons hc
    rw [← hs, hcore, trimEnd_append_cons hnot, trimStart_append_of_blank hgap, hstart]
    exact (trimEnd_append_cons (a := []) hnot).symm

theorem trimmed_trim (s : List Char) : Trimmed (trim s) := by
  refine ⟨?_, trimEnd_trimEnd _⟩
  rw [trim, trimStart_trimEnd, trimStart_trimStart]

theorem trim_eq_nil_iff : trim s = [] ↔ ∀ c ∈ s, isBlank c = true := by
  rw [trim, trimEnd_eq_nil_iff, ← trimStart_eq_nil_iff, trimStart_trimStart, trimStart_eq_nil_iff]

theorem trim_append_of_blank (h : ∀ c ∈ a, isBlank c = true) : trim (a ++ b) = trim b := by
  rw [trim, trim, trimStart_append_of_blank h]

theorem trimEnd_append_of_blank (h : ∀ c ∈ b, isBlank c = true) :
    trimEnd (a ++ b) = trimEnd a := by
  rw [← List.reverse_inj, ← trimStart_reverse, List.reverse_append,
    trimStart_append_of_blank (by simpa using h), trimStart_reverse]

theorem trim_append_of_blank_right (h : ∀ c ∈ b, isBlank c = true) : trim (a ++ b) = trim a := by
  rw [trim, ← trimStart_trimEnd, trimEnd_append_of_blank h, trimStart_trimEnd, trim]

theorem trim_append_cons (h : isBlank c = false) :
    trim (a ++ c :: b) = trimStart a ++ c :: trimEnd b := by
  rw [trim, trimStart_append (trimStart_cons_of_not h), trimEnd_append_cons h]

theorem trim_trimStart (s : List Char) : trim (trimStart s) = trim s := by
  rw [trim, trimStart_trimStart, trim]

theorem trim_trimEnd (s : List Char) : trim (trimEnd s) = trim s := by
  rw [trim, trimStart_trimEnd, trimEnd_trimEnd, trim]

theorem mem_trim_of_mem (hc : c ∈ s) (h : isBlank c = false) : c ∈ trim s := by
  obtain ⟨before, after, rfl⟩ := List.append_of_mem hc
  rw [trim_append_cons h]
  exact List.mem_append_right _ List.mem_cons_self

theorem Trimmed.trim_eq (h : Trimmed s) : trim s = s := by
  rw [trim, h.trimStart_eq, h.trimEnd_eq]

theorem trim_eq_self_of_forall_not_isBlank (h : ∀ c ∈ s, isBlank c = false) : trim s = s := by
  have hstart : ∀ s : List Char, (∀ c ∈ s, isBlank c = false) → trimStart s = s := by
    intro s h
    cases s with
    | nil => rfl
    | cons c s => exact trimStart_cons_of_not (h c List.mem_cons_self)
  have hend : trimEnd s = s := trimEnd_eq_self_iff.2 (hstart _ (by simpa using h))
  exact Trimmed.trim_eq ⟨hstart s h, hend⟩

section Lower

theorem isBlank_toLower (c : Char) : isBlank c.toLower = isBlank c :=
  apply_toLower (by decide +kernel) c

theorem trimStart_map_toLower (s : List Char) :
    trimStart (s.map Char.toLower) = (trimStart s).map Char.toLower := by
  have hcomp : isBlank ∘ Char.toLower = isBlank := funext isBlank_toLower
  rw [trimStart, List.dropWhile_map, hcomp]
  rfl

theorem trimStart_eq_of_map_toLower
    (h : trimStart (s.map Char.toLower) = s.map Char.toLower) : trimStart s = s := by
  rw [trimStart_map_toLower] at h
  refine (trimStart_isSuffix s).eq_of_length ?_
  simpa using congrArg List.length h

theorem Trimmed.of_map_toLower (h : Trimmed (s.map Char.toLower)) : Trimmed s := by
  refine ⟨trimStart_eq_of_map_toLower h.trimStart_eq, trimEnd_eq_self_iff.2 ?_⟩
  refine trimStart_eq_of_map_toLower ?_
  rw [List.map_reverse]
  exact trimEnd_eq_self_iff.1 h.trimEnd_eq

end Lower

end MailIndex.Text
