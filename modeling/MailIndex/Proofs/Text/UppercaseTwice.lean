import MailIndex.Proofs.Text.Trim
import MailIndex.Proofs.Tokens

namespace MailIndex.Text

section CodeSets

/-- Codes as the bits of one number, on which sets of them are compared at once. -/
def codeSet (codes : List Nat) : Nat := codes.foldr (fun n set => 1 <<< n ||| set) 0

theorem testBit_codeSet {codes : List Nat} {n : Nat} (h : n ∈ codes) :
    (codeSet codes).testBit n = true := by
  induction codes with
  | nil => cases h
  | cons m codes ih =>
    change (1 <<< m ||| codeSet codes).testBit n = true
    rw [Nat.testBit_or, Bool.or_eq_true]
    rcases List.mem_cons.1 h with rfl | h
    · left
      rw [Nat.one_shiftLeft, Nat.testBit_two_pow, decide_eq_true_eq]
    · right
      exact ih h

theorem not_mem_of_codeSet {codes codes' : List Nat} (h : codeSet codes &&& codeSet codes' = 0)
    {n : Nat} (hn : n ∈ codes') : n ∉ codes := by
  intro hcodes
  have hbit : (codeSet codes &&& codeSet codes').testBit n = true := by
    rw [Nat.testBit_and, testBit_codeSet hcodes, testBit_codeSet hn]
    rfl
  rw [h, Nat.zero_testBit] at hbit
  cases hbit

end CodeSets

namespace CaseRun

variable {r : CaseRun} {n : Nat}

def codes (r : CaseRun) : List Nat :=
  (List.range ((r.last - r.first) / r.step + 1)).map fun i => r.first + r.step * i

theorem mem_codes_of_holds (h : r.holds n = true) : n ∈ r.codes := by
  rw [holds, Bool.and_eq_true, Bool.and_eq_true, decide_eq_true_eq, decide_eq_true_eq,
    beq_iff_eq] at h
  obtain ⟨⟨hfirst, hlast⟩, hstep⟩ := h
  refine List.mem_map.2 ⟨(n - r.first) / r.step, List.mem_range.2 ?_, ?_⟩
  · exact Nat.lt_succ_of_le (Nat.div_le_div_right (by omega))
  · rw [Nat.mul_div_cancel' (Nat.dvd_of_mod_eq_zero hstep)]
    omega

end CaseRun

def takenCodes : List Nat := caseRuns.flatMap CaseRun.codes ++ longUppercase.map (·.1)

def givenCodes : List Nat :=
  caseRuns.flatMap (fun r => r.codes.map r.apply) ++ longUppercase.flatMap (·.2)

structure Settled (n : Nat) : Prop where
  valid : n.isValidChar
  capital : n < 128 → (Char.ofNat n).toUpper = Char.ofNat n
  not_taken : n ∉ takenCodes
  not_blank : n ∉ blankCodes

variable {s : List Char} {c d : Char} {n : Nat}

theorem settled_of_mem_givenCodes (h : n ∈ givenCodes) : Settled n := by
  have hchars : ∀ n ∈ givenCodes,
      n.isValidChar ∧ (n < 128 → (Char.ofNat n).toUpper = Char.ofNat n) := by
    decide +kernel
  have hapart : codeSet (takenCodes ++ blankCodes) &&& codeSet givenCodes = 0 := by
    decide +kernel
  have hmem := not_mem_of_codeSet hapart h
  rw [List.mem_append, not_or] at hmem
  exact ⟨(hchars n h).1, (hchars n h).2, hmem.1, hmem.2⟩

theorem upperChar_eq_self (hascii : ¬ c.toNat < 128) (htaken : c.toNat ∉ takenCodes) :
    upperChar c = [c] := by
  rw [takenCodes, List.mem_append, not_or] at htaken
  have hlong : longUppercase.find? (·.1 == c.toNat) = none := by
    refine List.find?_eq_none.2 fun e he heq => htaken.2 ?_
    exact List.mem_map.2 ⟨e, he, beq_iff_eq.1 heq⟩
  have hruns : caseRuns.find? (·.holds c.toNat) = none := by
    refine List.find?_eq_none.2 fun r hr hholds => htaken.1 ?_
    exact List.mem_flatMap.2 ⟨r, hr, CaseRun.mem_codes_of_holds hholds⟩
  simp only [upperChar, if_neg hascii, hlong, hruns]

theorem upperChar_toUpper_eq_self (h : c.toNat < 128) : upperChar c.toUpper = [c.toUpper] := by
  rw [upperChar_toUpper, upperChar, if_pos h]

theorem Settled.upperChar_eq (h : Settled n) : upperChar (Char.ofNat n) = [Char.ofNat n] := by
  have htoNat := toNat_charOfNat h.valid
  by_cases hascii : n < 128
  · have hupper := upperChar_toUpper_eq_self (c := Char.ofNat n) (htoNat.symm ▸ hascii)
    rwa [h.capital hascii] at hupper
  · refine upperChar_eq_self ?_ ?_ <;> rw [htoNat]
    · exact hascii
    · exact h.not_taken

theorem Settled.isBlank_eq (h : Settled n) : isBlank (Char.ofNat n) = false := by
  refine Bool.eq_false_iff.2 fun hblank => h.not_blank (mem_blankCodes ?_)
  rwa [isBlank, toNat_charOfNat h.valid] at hblank

theorem settled_of_mem_upperChar (h : d ∈ upperChar c) :
    upperChar d = [d] ∧ (isBlank d = true → isBlank c = true) := by
  have hgiven : ∀ n ∈ givenCodes, d = Char.ofNat n →
      upperChar d = [d] ∧ (isBlank d = true → isBlank c = true) := by
    rintro n hn rfl
    have hsettled := settled_of_mem_givenCodes hn
    exact ⟨hsettled.upperChar_eq, fun hd => absurd hd (Bool.eq_false_iff.1 hsettled.isBlank_eq)⟩
  -- the cases are those of `upperChar`; both tables give only codes of `givenCodes`
  by_cases hascii : c.toNat < 128
  · rw [upperChar, if_pos hascii] at h
    obtain rfl := List.mem_singleton.1 h
    refine ⟨upperChar_toUpper_eq_self hascii, fun hblank => ?_⟩
    rwa [apply_toUpper (f := isBlank) (by decide +kernel)] at hblank
  · rw [upperChar, if_neg hascii] at h
    split at h
    · rename_i e he
      obtain ⟨n, hn, rfl⟩ := List.mem_map.1 h
      refine hgiven n (List.mem_append_right _ ?_) rfl
      exact List.mem_flatMap.2 ⟨e, List.mem_of_find?_eq_some he, hn⟩
    · rename_i hlong
      split at h
      · rename_i r hr
        have hholds := List.find?_some hr
        have hcode := CaseRun.mem_codes_of_holds hholds
        refine hgiven (r.apply c.toNat) (List.mem_append_left _ ?_) (List.mem_singleton.1 h)
        exact List.mem_flatMap.2
          ⟨r, List.mem_of_find?_eq_some hr, List.mem_map.2 ⟨c.toNat, hcode, rfl⟩⟩
      · rename_i hruns
        obtain rfl := List.mem_singleton.1 h
        refine ⟨?_, id⟩
        simp only [upperChar, if_neg hascii, hlong, hruns]

theorem upper_eq_self (h : ∀ c ∈ s, upperChar c = [c]) : upper s = s := by
  induction s with
  | nil => rfl
  | cons c s ih =>
    obtain ⟨hc, hs⟩ := List.forall_mem_cons.1 h
    rw [upper, List.flatMap_cons, hc]
    exact congrArg (c :: ·) (ih hs)

theorem upperChar_of_mem_upper (h : d ∈ upper s) : upperChar d = [d] := by
  obtain ⟨c, -, hd⟩ := List.mem_flatMap.1 h
  exact (settled_of_mem_upperChar hd).1

theorem upper_upper (s : List Char) : upper (upper s) = upper s :=
  upper_eq_self fun _ => upperChar_of_mem_upper

theorem toUpper_eq_self (h : upperChar c = [c]) : c.toUpper = c := by
  by_cases hascii : c.toNat < 128
  · rw [upperChar, if_pos hascii] at h
    exact List.singleton_inj.1 h
  · exact toUpper_of_not_ascii hascii

theorem asciiUpper_upper (s : List Char) : asciiUpper (upper s) = upper s := by
  refine (List.map_congr_left fun c hc => ?_).trans (List.map_id _)
  exact toUpper_eq_self (upperChar_of_mem_upper hc)

theorem upper_eq_asciiUpper (h : ∀ c ∈ s, c.toNat < 128) : upper s = asciiUpper s := by
  induction s with
  | nil => rfl
  | cons c s ih =>
    obtain ⟨hc, hs⟩ := List.forall_mem_cons.1 h
    rw [upper, List.flatMap_cons, upperChar, if_pos hc]
    exact congrArg (c.toUpper :: ·) (ih hs)

section Trimming

variable {f : Char → List Char}

theorem trimStart_flatMap (hne : ∀ c, f c ≠ [])
    (hblank : ∀ c, ∀ d ∈ f c, isBlank d = true → isBlank c = true) (h : trimStart s = s) :
    trimStart (s.flatMap f) = s.flatMap f := by
  cases s with
  | nil => rfl
  | cons c s =>
    obtain ⟨d, rest, hf⟩ := List.exists_cons_of_ne_nil (hne c)
    have hc := not_isBlank_of_trimStart_cons h
    have hd : isBlank d = false := by
      refine Bool.eq_false_iff.2 fun hd => Bool.eq_false_iff.1 hc (hblank c d ?_ hd)
      rw [hf]
      exact List.mem_cons_self
    rw [List.flatMap_cons, hf]
    exact trimStart_cons_of_not hd

theorem Trimmed.upper (h : Trimmed s) : Trimmed (upper s) := by
  refine ⟨trimStart_flatMap upperChar_ne_nil ?_ h.trimStart_eq, trimEnd_eq_self_iff.2 ?_⟩
  · exact fun c d hd => (settled_of_mem_upperChar hd).2
  · rw [Text.upper, List.reverse_flatMap]
    refine trimStart_flatMap ?_ ?_ (trimEnd_eq_self_iff.1 h.trimEnd_eq)
    · exact fun c => mt List.reverse_eq_nil_iff.1 (upperChar_ne_nil c)
    · exact fun c d hd => (settled_of_mem_upperChar (List.mem_reverse.1 hd)).2

end Trimming

end MailIndex.Text
