import Mathlib.Data.List.Infix
import MailIndex.Text.Uppercase

namespace MailIndex.Text

theorem ascii_forall {p : Char → Prop} (h : ∀ n < 128, p (Char.ofNat n)) {c : Char}
    (hc : c.toNat < 128) : p c := by
  have := h c.toNat hc
  rwa [Char.ofNat_toNat] at this

theorem toUpper_of_not_ascii {c : Char} (h : ¬ c.toNat < 128) : c.toUpper = c := by
  refine dif_neg ?_
  rintro ⟨-, hz⟩
  have : c.toNat ≤ 122 := hz
  omega

theorem apply_toUpper {α : Type} {f : Char → α}
    (h : ∀ n < 128, f (Char.ofNat n).toUpper = f (Char.ofNat n)) (c : Char) :
    f c.toUpper = f c := by
  by_cases hc : c.toNat < 128
  · exact ascii_forall (p := fun c => f c.toUpper = f c) h hc
  · rw [toUpper_of_not_ascii hc]

theorem toLower_of_not_ascii {c : Char} (h : ¬ c.toNat < 128) : c.toLower = c := by
  refine dif_neg ?_
  rintro ⟨-, hz⟩
  have : c.toNat ≤ 90 := hz
  omega

theorem apply_toLower {α : Type} {f : Char → α}
    (h : ∀ n < 128, f (Char.ofNat n).toLower = f (Char.ofNat n)) (c : Char) :
    f c.toLower = f c := by
  by_cases hc : c.toNat < 128
  · exact ascii_forall (p := fun c => f c.toLower = f c) h hc
  · rw [toLower_of_not_ascii hc]

theorem utf8Size_toLower (c : Char) : c.toLower.utf8Size = c.utf8Size :=
  apply_toLower (by decide +kernel) c

theorem upperChar_toUpper (c : Char) : upperChar c.toUpper = upperChar c :=
  apply_toUpper (by decide +kernel) c

theorem upper_asciiUpper (s : List Char) : upper (asciiUpper s) = upper s := by
  rw [upper, upper, asciiUpper, List.flatMap_map]
  exact congrArg (s.flatMap ·) (funext upperChar_toUpper)

theorem upper_infix_upper {s t : List Char} (h : s <:+: t) : upper s <:+: upper t := h.flatMap _

theorem longUppercase_spec :
    ∀ e ∈ longUppercase, e.2 ≠ [] ∧ ∀ n ∈ e.2, Char.ofNat n ≠ '\\' := by
  decide +kernel

theorem upperChar_ne_nil (c : Char) : upperChar c ≠ [] := by
  rw [upperChar]
  split
  · exact List.cons_ne_nil _ _
  · split
    · rename_i e he
      exact mt List.map_eq_nil_iff.1 (longUppercase_spec e (List.mem_of_find?_eq_some he)).1
    · split <;> exact List.cons_ne_nil _ _

theorem upper_eq_nil_iff {s : List Char} : upper s = [] ↔ s = [] := by
  rw [upper, List.flatMap_eq_nil_iff]
  constructor
  · intro h
    refine List.eq_nil_iff_forall_not_mem.2 fun c hc => upperChar_ne_nil c (h c hc)
  · rintro rfl
    nofun

theorem toNat_charOfNat {n : Nat} (h : n.isValidChar) : (Char.ofNat n).toNat = n := by
  rw [Char.ofNat, dif_pos h]
  rfl

theorem ofNat_ne_backslash {n : Nat} (h : n ≠ 92) : Char.ofNat n ≠ '\\' := by
  intro hc
  by_cases hvalid : n.isValidChar
  · have hn := toNat_charOfNat hvalid
    rw [hc] at hn
    exact h hn.symm
  · rw [Char.ofNat, dif_neg hvalid] at hc
    cases hc

theorem apply_ne_backslash {r : CaseRun} (hr : r ∈ caseRuns) {n : Nat} (hn : r.holds n = true) :
    Char.ofNat (r.apply n) ≠ '\\' := by
  have hall : ∀ r ∈ caseRuns, 92 < r.upper ∨ r.upper + (r.last - r.first) < 92 := by
    decide +kernel
  rw [CaseRun.holds, Bool.and_eq_true, Bool.and_eq_true, decide_eq_true_eq,
    decide_eq_true_eq] at hn
  refine ofNat_ne_backslash ?_
  have hapart := hall r hr
  rw [CaseRun.apply]
  omega

theorem eq_backslash_of_mem_upperChar {c : Char} (h : '\\' ∈ upperChar c) : c = '\\' := by
  rw [upperChar] at h
  split at h
  · rename_i hc
    exact ascii_forall (p := fun c => '\\' ∈ [c.toUpper] → c = '\\') (by decide +kernel) hc h
  · split at h
    · rename_i e he
      obtain ⟨n, hn, hbackslash⟩ := List.mem_map.1 h
      exact absurd hbackslash ((longUppercase_spec e (List.mem_of_find?_eq_some he)).2 n hn)
    · split at h
      · rename_i r hr
        have hrun := List.mem_of_find?_eq_some hr
        have hholds := List.find?_some hr
        exact absurd (List.mem_singleton.1 h).symm (apply_ne_backslash hrun hholds)
      · exact (List.mem_singleton.1 h).symm

theorem backslash_mem_of_mem_upper {s : List Char} (h : '\\' ∈ upper s) : '\\' ∈ s := by
  obtain ⟨c, hc, hmem⟩ := List.mem_flatMap.1 h
  rwa [← eq_backslash_of_mem_upperChar hmem]

end MailIndex.Text
