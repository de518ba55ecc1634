import MailIndex.Proofs.Bytes
import MailIndex.RowKey

namespace MailIndex

namespace MailboxId

theorem ext {m n : MailboxId} (h : m.bytes = n.bytes) : m = n := by
  cases m
  cases n
  cases h
  rfl

theorem bytes_prefix_iff (m n : MailboxId) (rest : Bytes) :
    m.bytes <+: n.bytes ++ rest ↔ m = n := by
  constructor
  · rintro ⟨tail, h⟩
    have hlength : m.bytes.length = n.bytes.length := by rw [m.length_bytes, n.length_bytes]
    exact ext (List.append_inj_left h hlength)
  · rintro rfl
    exact List.prefix_append _ _

end MailboxId

namespace RowKey

theorem encode_eq (k : RowKey) : k.encode = k.mailbox.bytes ++ k.field.id :: k.term.bytes := by
  simp [encode, fieldStart]

theorem encode_inj {k l : RowKey} (h : k.encode = l.encode) : k = l := by
  obtain ⟨m, f, ⟨term⟩⟩ := k
  obtain ⟨n, g, ⟨term'⟩⟩ := l
  simp only [encode_eq] at h
  have hlength : m.bytes.length = n.bytes.length := by rw [m.length_bytes, n.length_bytes]
  obtain ⟨hm, hrest⟩ := List.append_inj h hlength
  obtain ⟨hf, rfl⟩ := List.cons.inj hrest
  cases MailboxId.ext hm
  cases Field.id_inj hf
  rfl

theorem mailbox_prefix_encode_iff {m : MailboxId} {k : RowKey} :
    m.bytes <+: k.encode ↔ k.mailbox = m := by
  rw [encode_eq, MailboxId.bytes_prefix_iff]
  exact eq_comm

theorem encode_prefix_encode_iff {k l : RowKey} :
    k.encode <+: l.encode ↔
      k.mailbox = l.mailbox ∧ k.field = l.field ∧ k.term.bytes <+: l.term.bytes := by
  constructor
  · intro h
    have hm : l.mailbox = k.mailbox := by
      apply mailbox_prefix_encode_iff.1
      rw [encode_eq] at h
      exact (List.prefix_append _ _).trans h
    rw [encode_eq, encode_eq, hm, List.prefix_append_right_inj, List.cons_prefix_cons] at h
    exact ⟨hm.symm, Field.id_inj h.1, h.2⟩
  · rintro ⟨hm, hf, hterm⟩
    rw [encode_eq, encode_eq, hm, hf, List.prefix_append_right_inj, List.cons_prefix_cons]
    exact ⟨rfl, hterm⟩

theorem fieldStart_prefix_encode_iff {m : MailboxId} {f : Field} {k : RowKey} :
    fieldStart m f <+: k.encode ↔ k.mailbox = m ∧ k.field = f := by
  have : fieldStart m f = encode ⟨m, f, .empty⟩ := by simp [encode, Term.empty]
  rw [this, encode_prefix_encode_iff]
  constructor
  · rintro ⟨hm, hf, -⟩
    exact ⟨hm.symm, hf.symm⟩
  · rintro ⟨rfl, rfl⟩
    exact ⟨rfl, rfl, List.nil_prefix⟩

@[simp] theorem decode_encode (k : RowKey) : decode k.encode = .ok k := by
  obtain ⟨m, f, ⟨term⟩⟩ := k
  have htake : (encode ⟨m, f, ⟨term⟩⟩).take 16 = m.bytes := by
    rw [encode_eq, List.take_left' m.length_bytes]
  have hdrop : (encode ⟨m, f, ⟨term⟩⟩).drop 16 = f.id :: term := by
    rw [encode_eq, List.drop_left' m.length_bytes]
  have hm : MailboxId.ofBytes? m.bytes = some m := dif_pos m.length_bytes
  simp only [decode, htake, hdrop, hm, decodeField, Field.ofId?_id]
  rfl

theorem decode_eq_ok_iff {row : Bytes} {k : RowKey} : decode row = .ok k ↔ row = k.encode := by
  constructor
  · intro h
    rw [decode] at h
    split at h
    · rename_i m id term hm hrest
      rw [MailboxId.ofBytes?] at hm
      split at hm
      · cases hm
        rw [decodeField] at h
        cases hf : Field.ofId? id with
        | none =>
          rw [hf] at h
          cases h
        | some f =>
          rw [hf] at h
          cases h
          rw [encode_eq]
          have := List.find?_some hf
          rw [decide_eq_true_eq] at this
          change row = row.take 16 ++ f.id :: term
          rw [this, ← hrest, List.take_append_drop]
      · cases hm
    · cases h
  · rintro rfl
    exact decode_encode k

end RowKey

namespace Qualifier

theorem length_encode (id : MessageId) : (encode id).length = 8 :=
  MailboxId.length_bigEndian 8 id.toNat

@[simp] theorem decode_encode (id : MessageId) : decode (encode id) = .ok id := by
  have hvalue : Bytes.toNatBE (encode id) = id.toNat := by
    rw [encode, Bytes.toNatBE_bigEndian]
    exact Nat.mod_eq_of_lt id.toNat_lt
  rw [decode, if_pos (length_encode id), hvalue]
  exact congrArg Except.ok (UInt64.ofNat_toNat)

theorem encode_inj {a b : MessageId} (h : encode a = encode b) : a = b := by
  have := congrArg decode h
  simpa using this

theorem decode_eq_ok_iff {qualifier : Bytes} {id : MessageId} :
    decode qualifier = .ok id ↔ qualifier = encode id := by
  constructor
  · intro h
    rw [decode] at h
    split at h
    · rename_i hlength
      cases h
      have hlt := Bytes.toNatBE_lt qualifier
      rw [hlength] at hlt
      rw [encode, UInt64.toNat_ofNat_of_lt' hlt, ← hlength, Bytes.bigEndian_toNatBE]
    · cases h
  · rintro rfl
    exact decode_encode id

theorem exists_decode_eq_ok_iff {qualifier : Bytes} :
    (∃ id, decode qualifier = .ok id) ↔ qualifier.length = 8 := by
  constructor
  · rintro ⟨id, h⟩
    rw [decode_eq_ok_iff.1 h, length_encode]
  · exact fun hlength => ⟨_, if_pos hlength⟩

end Qualifier

namespace Term

theorem sentDate_lt_sentDate_iff {s t : Millis} :
    (sentDate s).bytes < (sentDate t).bytes ↔ s < t := by
  have hs := s.toInt_lt
  have hs' := s.le_toInt
  have ht := t.toInt_lt
  have ht' := t.le_toInt
  rw [sentDate, sentDate, Bytes.bigEndian_lt_bigEndian_iff, Int64.lt_iff_toInt_lt]
  omega

end Term

end MailIndex
