import Mathlib.Tactic.Ring
import MailIndex.Mailbox

namespace MailIndex.Bytes

theorem append_lt_append_iff (p : Bytes) {a b : Bytes} : p ++ a < p ++ b ↔ a < b := by
  induction p with
  | nil => rfl
  | cons x p ih => simp [ih]

theorem not_lt_of_prefix {p a : Bytes} (h : p <+: a) : ¬ a < p := by
  obtain ⟨b, rfl⟩ := h
  intro h
  have : p ++ b < p ++ [] := by simpa using h
  exact List.not_lt_nil b ((append_lt_append_iff p).1 this)

theorem prefix_of_lt {p a b : Bytes} (ha : ¬ a < p) (hab : a < b) (hb : p <+: b) : p <+: a := by
  induction p generalizing a b with
  | nil => exact List.nil_prefix
  | cons x p ih =>
    obtain ⟨b, rfl⟩ := hb
    cases a with
    | nil => exact absurd (List.nil_lt_cons x p) ha
    | cons y a =>
      rw [List.cons_lt_cons_iff, not_or] at ha
      rcases List.cons_lt_cons_iff.1 hab with h | ⟨rfl, h⟩
      · exact absurd h ha.1
      · have : ¬ a < p := fun h' => ha.2 ⟨rfl, h'⟩
        exact (List.prefix_cons_inj y).2 (ih this h (List.prefix_append p b))

theorem prefix_of_between {p lower upper a : Bytes} (hlower : p <+: lower) (hupper : p <+: upper)
    (h : ¬ a < lower) (h' : ¬ upper < a) : p <+: a := by
  have ha : ¬ a < p := by
    intro hap
    rcases StrictTotal.connected p lower with hp | rfl | hp
    · exact h (StrictTotal.trans hap hp)
    · exact h hap
    · exact not_lt_of_prefix hlower hp
  rcases StrictTotal.connected a upper with hau | rfl | hau
  · exact prefix_of_lt ha hau hupper
  · exact hupper
  · exact absurd hau h'

theorem contains_iff (needle text : Bytes) : needle.contains text = true ↔ needle <:+: text := by
  induction text with
  | nil => simp [contains]
  | cons b text ih =>
    rw [contains, Bool.or_eq_true, ih, List.isPrefixOf_iff_prefix, List.infix_cons_iff]

theorem toNat_ofNat (n : Nat) : (UInt8.ofNat n).toNat = n % 256 := UInt8.toNat_ofNat'

theorem bigEndian_succ (w n : Nat) :
    bigEndian (w + 1) n = UInt8.ofNat (n / 256 ^ w) :: bigEndian w n := rfl

theorem foldl_bigEndian (acc w n : Nat) :
    (bigEndian w n).foldl (fun n b => 256 * n + b.toNat) acc = acc * 256 ^ w + n % 256 ^ w := by
  induction w generalizing acc with
  | zero => simp [bigEndian, Nat.mod_one]
  | succ w ih =>
    rw [bigEndian_succ, List.foldl_cons, ih, toNat_ofNat, Nat.mod_pow_succ]
    ring

theorem toNatBE_bigEndian (w n : Nat) : toNatBE (bigEndian w n) = n % 256 ^ w := by
  rw [toNatBE, foldl_bigEndian, Nat.zero_mul, Nat.zero_add]

theorem add_mul_lt_iff {base a b c d : Nat} (hb : b < base) (hd : d < base) :
    b + base * a < d + base * c ↔ a < c ∨ a = c ∧ b < d := by
  rcases Nat.lt_trichotomy a c with h | rfl | h
  · have : base * (a + 1) ≤ base * c := Nat.mul_le_mul_left base h
    rw [Nat.mul_succ] at this
    omega
  · omega
  · have : base * (c + 1) ≤ base * a := Nat.mul_le_mul_left base h
    rw [Nat.mul_succ] at this
    omega

theorem bigEndian_lt_bigEndian_iff (w m n : Nat) :
    bigEndian w m < bigEndian w n ↔ m % 256 ^ w < n % 256 ^ w := by
  induction w with
  | zero => simp [bigEndian, Nat.mod_one]
  | succ w ih =>
    have low : ∀ k, k % 256 ^ w < 256 ^ w := fun k => Nat.mod_lt k (Nat.pow_pos (by decide))
    rw [bigEndian_succ, bigEndian_succ, List.cons_lt_cons_iff, ih, UInt8.lt_iff_toNat_lt,
      ← UInt8.toNat_inj, toNat_ofNat, toNat_ofNat, Nat.mod_pow_succ, Nat.mod_pow_succ,
      add_mul_lt_iff (low m) (low n)]

theorem foldl_eq_add (bytes : Bytes) (acc : Nat) :
    bytes.foldl (fun n b => 256 * n + b.toNat) acc = acc * 256 ^ bytes.length + toNatBE bytes := by
  induction bytes generalizing acc with
  | nil => simp [toNatBE]
  | cons b bytes ih =>
    rw [toNatBE, List.foldl_cons, List.foldl_cons, ih, ih (256 * 0 + b.toNat), List.length_cons]
    ring

theorem toNatBE_lt (bytes : Bytes) : toNatBE bytes < 256 ^ bytes.length := by
  induction bytes with
  | nil => simp [toNatBE]
  | cons b bytes ih =>
    have hb : b.toNat + 1 ≤ 256 := b.toNat_lt
    have hmul : (b.toNat + 1) * 256 ^ bytes.length ≤ 256 * 256 ^ bytes.length :=
      Nat.mul_le_mul_right _ hb
    rw [toNatBE, List.foldl_cons, foldl_eq_add, List.length_cons, Nat.pow_succ', Nat.mul_zero,
      Nat.zero_add]
    rw [Nat.add_mul] at hmul
    omega

theorem bigEndian_foldl (bytes : Bytes) (acc : Nat) :
    bigEndian bytes.length (bytes.foldl (fun n b => 256 * n + b.toNat) acc) = bytes := by
  induction bytes generalizing acc with
  | nil => rfl
  | cons b bytes ih =>
    rw [List.length_cons, bigEndian_succ, List.foldl_cons, ih, foldl_eq_add, Nat.add_comm,
      Nat.add_mul_div_right _ _ (Nat.pow_pos (by decide)), Nat.div_eq_of_lt (toNatBE_lt bytes)]
    refine congrArg (· :: bytes) (UInt8.toNat_inj.1 ?_)
    have := b.toNat_lt
    rw [toNat_ofNat]
    omega

theorem bigEndian_toNatBE (bytes : Bytes) : bigEndian bytes.length (toNatBE bytes) = bytes :=
  bigEndian_foldl bytes 0

end MailIndex.Bytes
