import Mathlib.Algebra.GroupWithZero.Nat
import Mathlib.Data.List.TakeWhile
import MailIndex.Proofs.Text.Trim
import MailIndex.Timestamp

namespace MailIndex.Text

variable {bound m n w : Nat} {beyond : DecimalError} {s : List Char} {c d : Char}

theorem isDigit_iff : c.isDigit = true ↔ '0' ≤ c ∧ c ≤ '9' := by
  simp [Char.isDigit, Char.le_def]

theorem isSome_digitValue? (c : Char) : (digitValue? c).isSome = c.isDigit := by
  rw [digitValue?, Bool.eq_iff_iff, isDigit_iff]
  split <;> simp_all

theorem digitValue?_of_isDigit (h : c.isDigit = true) : digitValue? c = some (c.toNat - 48) :=
  if_pos (isDigit_iff.1 h)

theorem digitValue?_of_not_isDigit (h : c.isDigit = false) : digitValue? c = none := by
  rw [← Option.not_isSome_iff_eq_none, isSome_digitValue?, h]
  exact Bool.false_ne_true

theorem isBlank_of_isDigit (h : c.isDigit = true) : isBlank c = false := by
  have hascii : c.toNat < 128 := by
    have : c ≤ '9' := (isDigit_iff.1 h).2
    have : c.toNat ≤ 57 := this
    omega
  revert h
  exact ascii_forall (p := fun c => c.isDigit = true → isBlank c = false) (by decide +kernel) hascii

theorem le_ofDigitChars (s : List Char) (n : Nat) : n ≤ Nat.ofDigitChars 10 s n := by
  induction s generalizing n with
  | nil => exact Nat.le_refl n
  | cons c s ih =>
    rw [Nat.ofDigitChars_cons]
    exact Nat.le_trans (by omega) (ih _)

theorem readDigits_eq_ok_iff (hn : n ≤ bound) :
    readDigits bound beyond n s = .ok m ↔
      (∀ c ∈ s, c.isDigit = true) ∧ Nat.ofDigitChars 10 s n = m ∧ m ≤ bound := by
  induction s generalizing n with
  | nil =>
    constructor
    · rintro ⟨⟩
      exact ⟨nofun, rfl, hn⟩
    · rintro ⟨-, rfl, -⟩
      rfl
  | cons c s ih =>
    rw [readDigits, Nat.ofDigitChars_cons, List.forall_mem_cons]
    cases hc : c.isDigit with
    | false =>
      rw [digitValue?_of_not_isDigit hc]
      exact iff_of_false nofun nofun
    | true =>
      rw [digitValue?_of_isDigit hc]
      -- digits to come never make the number smaller, so one beyond the bound stays there
      have hgrows := le_ofDigitChars s (10 * n + (c.toNat - 48))
      by_cases hbeyond : 10 * n + (c.toNat - 48) > bound
      · simp only [if_pos hbeyond]
        refine iff_of_false nofun ?_
        rintro ⟨-, hvalue, hm⟩
        exact absurd (hgrows.trans (hvalue.le.trans hm)) (Nat.not_le.2 hbeyond)
      · simp only [if_neg hbeyond, true_and]
        exact ih (Nat.not_lt.1 hbeyond)

theorem ne_sign_of_isDigit (h : c.isDigit = true) : c ≠ '-' ∧ c ≠ '+' := by
  constructor <;>
  · rintro rfl
    cases h

theorem readInt64_of_isDigit (h : c.isDigit = true) :
    readInt64 (c :: s) = (readDigits 0x7FFFFFFFFFFFFFFF .tooLarge 0 (c :: s)).map Int.ofNat := by
  obtain ⟨hminus, hplus⟩ := ne_sign_of_isDigit h
  rw [readInt64] <;> simp [hminus, hplus]

theorem readInt64_ne_ok (hdigit : c.isDigit = true) (hmem : d ∈ s) (hother : d.isDigit = false)
    (n : Int) : readInt64 (c :: s) ≠ .ok n := by
  rw [readInt64_of_isDigit hdigit]
  cases hread : readDigits 0x7FFFFFFFFFFFFFFF .tooLarge 0 (c :: s) with
  | error e => nofun
  | ok m =>
    have hdigits := ((readDigits_eq_ok_iff (Nat.zero_le _)).1 hread).1
    exact absurd (hdigits d (List.mem_cons_of_mem c hmem)) (Bool.eq_false_iff.1 hother)

theorem isDigit_of_mem_toDigits (h : c ∈ Nat.toDigits 10 n) : c.isDigit = true :=
  Nat.isDigit_of_mem_toDigits (by decide) (by decide) h

theorem readDigits_toDigits (h : n ≤ bound) :
    readDigits bound beyond 0 (Nat.toDigits 10 n) = .ok n := by
  have hvalue : Nat.ofDigitChars 10 (Nat.toDigits 10 n) 0 = n :=
    Nat.ofDigitChars_toDigits (by decide) (by decide)
  exact (readDigits_eq_ok_iff (Nat.zero_le _)).2 ⟨fun _ => isDigit_of_mem_toDigits, hvalue, h⟩

theorem readInt64_toDigits (h : n ≤ 0x7FFFFFFFFFFFFFFF) :
    readInt64 (Nat.toDigits 10 n) = .ok n := by
  have hread : readDigits _ .tooLarge 0 (Nat.toDigits 10 n) = .ok n := readDigits_toDigits h
  cases hcs : Nat.toDigits 10 n with
  | nil => exact absurd hcs Nat.toDigits_ne_nil
  | cons c s =>
    have hdigit : c.isDigit = true := isDigit_of_mem_toDigits (n := n) (hcs ▸ List.mem_cons_self)
    rw [hcs] at hread
    rw [readInt64_of_isDigit hdigit, hread]
    rfl

theorem readInt64_neg_toDigits (h : n ≤ 0x8000000000000000) :
    readInt64 ('-' :: Nat.toDigits 10 n) = .ok (-n) := by
  have hread : readDigits _ .tooSmall 0 (Nat.toDigits 10 n) = .ok n := readDigits_toDigits h
  cases hcs : Nat.toDigits 10 n with
  | nil => exact absurd hcs Nat.toDigits_ne_nil
  | cons c s =>
    rw [hcs] at hread
    rw [readInt64, hread]
    · rfl
    · nofun

theorem readInt64_toString (n : Int64) : readInt64 (toString n.toInt).toList = .ok n.toInt := by
  have hmin : -0x8000000000000000 ≤ n.toInt := n.le_toInt
  have hmax : n.toInt < 0x8000000000000000 := n.toInt_lt
  rw [Int.toString_eq_repr, Int.repr_eq_if]
  split
  · next hnonneg =>
    rw [Nat.toList_repr, readInt64_toDigits (by omega), Int.toNat_of_nonneg hnonneg]
  · next hneg =>
    have hsign : "-".toList = ['-'] := rfl
    rw [String.toList_append, Nat.toList_repr, hsign, List.singleton_append,
      readInt64_neg_toDigits (by omega), Int.toNat_of_nonneg (by omega), Int.neg_neg]

theorem not_isBlank_of_mem_toString (n : Int) : ∀ c ∈ (toString n).toList, isBlank c = false := by
  have hdigits : ∀ m : Nat, ∀ c ∈ m.repr.toList, isBlank c = false := by
    intro m c hc
    rw [Nat.toList_repr] at hc
    exact isBlank_of_isDigit (isDigit_of_mem_toDigits hc)
  rw [Int.toString_eq_repr, Int.repr_eq_if]
  split
  · exact hdigits _
  · have hsign : "-".toList = ['-'] := rfl
    rw [String.toList_append, hsign, List.singleton_append, List.forall_mem_cons]
    exact ⟨rfl, hdigits _⟩

section Unsigned

structure IsDigits (s : List Char) (n : Nat) : Prop where
  ne_nil : s ≠ []
  isDigit : ∀ c ∈ s, c.isDigit = true
  value : Nat.ofDigitChars 10 s 0 = n

inductive IsDecimal : List Char → Nat → Prop
  | plain {s : List Char} {n : Nat} : IsDigits s n → IsDecimal s n
  | signed {s : List Char} {n : Nat} : IsDigits s n → IsDecimal ('+' :: s) n

theorem isDigits_toDigits (n : Nat) : IsDigits (Nat.toDigits 10 n) n :=
  ⟨Nat.toDigits_ne_nil, fun _ => isDigit_of_mem_toDigits,
    Nat.ofDigitChars_toDigits (by decide) (by decide)⟩

theorem IsDecimal.ne_nil (h : IsDecimal s n) : s ≠ [] := by
  cases h with
  | plain h => exact h.ne_nil
  | signed h => exact List.cons_ne_nil _ _

theorem IsDecimal.isDigit_or (h : IsDecimal s n) : ∀ c ∈ s, c.isDigit = true ∨ c = '+' := by
  cases h with
  | plain h => exact fun c hc => .inl (h.isDigit c hc)
  | signed h => exact List.forall_mem_cons.2 ⟨.inr rfl, fun c hc => .inl (h.isDigit c hc)⟩

theorem readDigits_zero_eq_ok_iff (hs : s ≠ []) :
    readDigits bound beyond 0 s = .ok n ↔ IsDigits s n ∧ n ≤ bound := by
  rw [readDigits_eq_ok_iff (Nat.zero_le bound)]
  constructor
  · rintro ⟨hdigits, hvalue, hn⟩
    exact ⟨⟨hs, hdigits, hvalue⟩, hn⟩
  · rintro ⟨h, hn⟩
    exact ⟨h.isDigit, h.value, hn⟩

theorem isDecimal_iff_isDigits (h : s.head? ≠ some '+') : IsDecimal s n ↔ IsDigits s n := by
  constructor
  · rintro (hs | hs)
    · exact hs
    · exact absurd rfl h
  · exact .plain

theorem isDecimal_plus_iff : IsDecimal ('+' :: s) n ↔ IsDigits s n := by
  constructor
  · rintro (h | h)
    · exact absurd (h.isDigit '+' List.mem_cons_self) (by decide)
    · exact h
  · exact .signed

theorem readUnsigned_eq_ok_iff :
    readUnsigned bound s = .ok n ↔ IsDecimal s n ∧ n ≤ bound := by
  have hnil : ¬ IsDigits [] n := fun h => h.ne_nil rfl
  fun_cases readUnsigned bound s with
  | case1 =>
    rw [isDecimal_iff_isDigits (by decide)]
    exact iff_of_false nofun fun h => hnil h.1
  | case2 =>
    rw [isDecimal_plus_iff]
    exact iff_of_false nofun fun h => hnil h.1
  | case3 digits hne =>
    rw [isDecimal_plus_iff]
    exact readDigits_zero_eq_ok_iff fun h => hne (h ▸ rfl)
  | case4 _ hne _ hplus =>
    have hhead : s.head? ≠ some '+' := by
      intro h
      obtain ⟨digits, rfl⟩ := List.head?_eq_some_iff.1 h
      exact hplus digits rfl
    rw [isDecimal_iff_isDigits hhead]
    exact readDigits_zero_eq_ok_iff hne

theorem readUInt64_eq_ok_iff {word : UInt64} :
    readUInt64 s = .ok word ↔ IsDecimal s word.toNat := by
  have hword : word.toNat ≤ 0xFFFFFFFFFFFFFFFF := Nat.le_of_lt_succ word.toNat_lt
  rw [readUInt64]
  constructor
  · intro h
    cases hread : readUnsigned 0xFFFFFFFFFFFFFFFF s with
    | error cause =>
      rw [hread] at h
      cases h
    | ok n =>
      rw [hread] at h
      cases h
      obtain ⟨hs, hn⟩ := readUnsigned_eq_ok_iff.1 hread
      rwa [UInt64.toNat_ofNat_of_lt' (Nat.lt_succ_of_le hn)]
  · intro h
    rw [readUnsigned_eq_ok_iff.2 ⟨h, hword⟩]
    exact congrArg Except.ok UInt64.ofNat_toNat

end Unsigned

def padded : Nat → Nat → List Char
  | 0, _ => []
  | w + 1, n => padded w (n / 10) ++ [Nat.digitChar (n % 10)]

theorem length_padded (w n : Nat) : (padded w n).length = w := by
  induction w generalizing n with
  | zero => rfl
  | succ w ih => rw [padded, List.length_append, ih, List.length_singleton]

theorem isDigit_of_mem_padded (h : c ∈ padded w n) : c.isDigit = true := by
  induction w generalizing n with
  | zero => cases h
  | succ w ih =>
    rcases List.mem_append.1 h with h | h
    · exact ih h
    · rw [List.mem_singleton.1 h, Nat.isDigit_digitChar]
      exact decide_eq_true (Nat.mod_lt n (by decide))

theorem ofDigitChars_padded (h : n < 10 ^ w) : Nat.ofDigitChars 10 (padded w n) 0 = n := by
  induction w generalizing n with
  | zero =>
    rw [Nat.pow_zero, Nat.lt_one_iff] at h
    rw [h]
    rfl
  | succ w ih =>
    have hfront : n / 10 < 10 ^ w := by
      rw [Nat.pow_succ] at h
      omega
    have hlast : n % 10 < 10 := Nat.mod_lt n (by decide)
    rw [padded, Nat.ofDigitChars_append, ih hfront,
      Nat.ofDigitChars_cons_digitChar_of_lt_ten hlast]
    exact Nat.div_add_mod n 10

theorem not_isBlank_of_mem_padded : ∀ c ∈ padded w n, isBlank c = false :=
  fun _ h => isBlank_of_isDigit (isDigit_of_mem_padded h)

theorem exists_padded_eq_cons (h : 0 < w) (n : Nat) :
    ∃ c s, c.isDigit = true ∧ padded w n = c :: s := by
  cases hcs : padded w n with
  | nil =>
    have hlength := length_padded w n
    rw [hcs, List.length_nil] at hlength
    omega
  | cons c s =>
    have hmem : c ∈ padded w n := hcs ▸ List.mem_cons_self
    exact ⟨c, s, isDigit_of_mem_padded hmem, rfl⟩

theorem trimStart_padded_append (h : 0 < w) (n : Nat) (rest : List Char) :
    trimStart (padded w n ++ rest) = padded w n ++ rest := by
  obtain ⟨c, s, hc, hcs⟩ := exists_padded_eq_cons h n
  rw [hcs]
  exact trimStart_cons_of_not (isBlank_of_isDigit hc)

end MailIndex.Text
