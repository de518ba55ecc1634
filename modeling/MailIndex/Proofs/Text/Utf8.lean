import MailIndex.Proofs.List
import MailIndex.Text.Utf8

namespace MailIndex.Text

variable {a b : List Char}

theorem encode_cons (c : Char) (s : List Char) :
    encode (c :: s) = String.utf8EncodeChar c ++ encode s := List.flatMap_cons

theorem encode_append : encode (a ++ b) = encode a ++ encode b := List.flatMap_append

theorem utf8EncodeChar_append_inj {c d : Char} {s t : Bytes}
    (h : String.utf8EncodeChar c ++ s = String.utf8EncodeChar d ++ t) : c = d ∧ s = t := by
  have hread : ∀ (c : Char) (s : Bytes),
      (String.utf8EncodeChar c ++ s).toByteArray.utf8DecodeChar? 0 = some c := by
    intro c s
    rw [List.toByteArray_append]
    exact ByteArray.utf8DecodeChar?_utf8EncodeChar_append
  have hc : c = d := by
    have := hread c s
    rw [h, hread d t] at this
    exact (Option.some.inj this).symm
  subst hc
  exact ⟨rfl, List.append_cancel_left h⟩

section Ascii

variable {c : Char}

theorem utf8EncodeChar_of_ascii (h : c.toNat < 128) :
    String.utf8EncodeChar c = [UInt8.ofNat c.toNat] := if_pos (Nat.le_of_lt_succ h)

theorem not_ascii_of_mem_utf8EncodeChar (h : ¬ c.toNat < 128) :
    ∀ b ∈ String.utf8EncodeChar c, 128 ≤ b.toNat := by
  fun_cases String.utf8EncodeChar c with
  | case1 v hv => exact absurd (Nat.lt_succ_of_le hv) h
  | case2 v | case3 v | case4 v =>
    simp only [List.forall_mem_cons, List.not_mem_nil, IsEmpty.forall_iff, implies_true, and_true,
      UInt8.toNat_ofNat']
    omega

theorem decodeStep_of_ascii {lead : UInt8} (h : lead.toNat < 128) (rest : Bytes) :
    decodeStep lead rest = (some (Char.ofNat lead.toNat), 0) := by
  have htail : tailLength lead = some 0 := if_pos (UInt8.le_iff_toNat_le.2 (Nat.le_of_lt_succ h))
  rw [decodeStep, htail]
  rfl

theorem decodeLossy_encode_of_ascii (h : ∀ c ∈ a, c.toNat < 128) : decodeLossy (encode a) = a := by
  induction a with
  | nil => rw [encode, List.flatMap_nil, decodeLossy]
  | cons c a ih =>
    obtain ⟨hc, ha⟩ := List.forall_mem_cons.1 h
    have hlead : (UInt8.ofNat c.toNat).toNat = c.toNat :=
      UInt8.toNat_ofNat_of_lt (hc.trans (by decide))
    rw [encode_cons, utf8EncodeChar_of_ascii hc, List.singleton_append, decodeLossy,
      decodeStep_of_ascii (hlead.symm ▸ hc), hlead]
    simp only [Option.getD_some, Char.ofNat_toNat, List.drop_zero, ih ha]

end Ascii

theorem encode_prefix_encode_iff : encode a <+: encode b ↔ a <+: b := by
  induction a generalizing b with
  | nil => simp [encode]
  | cons c a ih =>
    cases b with
    | nil =>
      rw [encode_cons]
      simp [encode]
    | cons d b =>
      rw [List.cons_prefix_cons, ← ih]
      constructor
      · rintro ⟨rest, h⟩
        rw [encode_cons, encode_cons, List.append_assoc] at h
        obtain ⟨hc, h⟩ := utf8EncodeChar_append_inj h
        exact ⟨hc, rest, h⟩
      · rintro ⟨rfl, h⟩
        rw [encode_cons, encode_cons, List.prefix_append_right_inj]
        exact h

theorem encode_inj : encode a = encode b ↔ a = b := by
  constructor
  · intro h
    have hab : a <+: b := encode_prefix_encode_iff.1 (h ▸ List.prefix_refl _)
    have hba : b <+: a := encode_prefix_encode_iff.1 (h ▸ List.prefix_refl _)
    exact hab.eq_of_length (Nat.le_antisymm hab.length_le hba.length_le)
  · exact congrArg encode

theorem isUTF8FirstByte_cons {c : Char} {lead : UInt8} {rest : Bytes}
    (h : String.utf8EncodeChar c = lead :: rest) :
    lead.IsUTF8FirstByte ∧ ∀ x ∈ rest, ¬ x.IsUTF8FirstByte := by
  have hfirst : ∀ i (hi : i < (lead :: rest).length),
      ((lead :: rest)[i]).IsUTF8FirstByte ↔ i = 0 := by
    intro i hi
    simp only [← h]
    exact UInt8.isUTF8FirstByte_getElem_utf8EncodeChar
  refine ⟨(hfirst 0 (Nat.zero_lt_succ _)).2 rfl, fun x hx => ?_⟩
  obtain ⟨i, hi, rfl⟩ := List.getElem_of_mem hx
  exact mt (hfirst (i + 1) (Nat.succ_lt_succ hi)).1 (Nat.succ_ne_zero i)

/-- The octets of a text stand in those of another only where the text itself stands: they neither
begin nor end within a character. -/
theorem encode_eq_append_iff {before after : Bytes} (ha : a ≠ []) :
    encode b = before ++ encode a ++ after ↔
      ∃ left right, b = left ++ a ++ right ∧ encode left = before ∧ encode right = after := by
  constructor
  · intro h
    obtain ⟨c, tail, rfl⟩ := List.exists_cons_of_ne_nil ha
    obtain ⟨lead, rest, hc⟩ := List.exists_cons_of_ne_nil (String.utf8EncodeChar_ne_nil (c := c))
    have hlead := (isUTF8FirstByte_cons hc).1
    have hneedle : ∀ before, before ++ encode (c :: tail) ++ after =
        before ++ lead :: (rest ++ encode tail ++ after) := by
      intro before
      rw [encode_cons, hc]
      simp
    induction b generalizing before with
    | nil =>
      rw [hneedle] at h
      simp [encode] at h
    | cons d b ih =>
      cases before with
      | nil =>
        obtain ⟨right, hright⟩ := encode_prefix_encode_iff.1 ⟨after, h.symm⟩
        refine ⟨[], right, hright.symm, rfl, ?_⟩
        rw [← hright, encode_append] at h
        exact List.append_cancel_left h
      | cons first before =>
        obtain ⟨lead', rest', hd⟩ :=
          List.exists_cons_of_ne_nil (String.utf8EncodeChar_ne_nil (c := d))
        -- what follows the first octet of `d` begins no character, so `a` begins behind it
        have hrest : lead ∉ rest' := fun hmem => (isUTF8FirstByte_cons hd).2 lead hmem hlead
        rw [hneedle, encode_cons, hd, List.cons_append, List.cons_append] at h
        obtain ⟨rfl, htail⟩ := List.cons.inj h
        obtain ⟨between, rfl, hb⟩ := (append_eq_append_cons_iff hrest).1 htail
        obtain ⟨left, right, rfl, rfl, rfl⟩ := ih (hb.trans (hneedle between).symm)
        exact ⟨d :: left, right, rfl, by rw [encode_cons, hd, List.cons_append], rfl⟩
  · rintro ⟨left, right, rfl, rfl, rfl⟩
    rw [encode_append, encode_append]

theorem encode_infix_encode_iff : encode a <:+: encode b ↔ a <:+: b := by
  constructor
  · rintro ⟨before, after, h⟩
    by_cases ha : a = []
    · rw [ha]
      exact List.nil_infix
    · obtain ⟨left, right, rfl, -, -⟩ := (encode_eq_append_iff ha).1 h.symm
      exact ⟨left, right, rfl⟩
  · exact fun h => h.flatMap _

end MailIndex.Text
