import Mathlib.Data.Prod.Lex
import MailIndex.Error
import MailIndex.Proofs.RowKey

namespace MailIndex

namespace Bytes

variable {a b c d : Bytes}

theorem append_lt_append_iff_of_length (h : a.length = b.length) :
    a ++ c < b ++ d ↔ a < b ∨ a = b ∧ c < d := by
  induction a generalizing b with
  | nil =>
    cases List.length_eq_zero_iff.1 h.symm
    simp
  | cons x a ih =>
    cases b with
    | nil => cases h
    | cons y b =>
      rw [List.cons_append, List.cons_append, List.cons_lt_cons_iff, List.cons_lt_cons_iff,
        ih (Nat.succ_inj.1 h), List.cons_eq_cons]
      tauto

theorem toNatBE_inj (h : a.length = b.length) : toNatBE a = toNatBE b ↔ a = b := by
  constructor
  · intro hvalue
    rw [← bigEndian_toNatBE a, ← bigEndian_toNatBE b, hvalue, h]
  · rintro rfl
    rfl

theorem lt_iff_toNatBE_lt (h : a.length = b.length) : a < b ↔ toNatBE a < toNatBE b := by
  have ha := toNatBE_lt a
  have hb := toNatBE_lt b
  rw [h] at ha
  calc
    a < b ↔ bigEndian b.length (toNatBE a) < bigEndian b.length (toNatBE b) := by
      rw [bigEndian_toNatBE b, ← h, bigEndian_toNatBE a]
    _ ↔ toNatBE a < toNatBE b := by
      rw [bigEndian_lt_bigEndian_iff, Nat.mod_eq_of_lt ha, Nat.mod_eq_of_lt hb]

end Bytes

/-- What written forms are when they stand for things in all respects: writing and reading undo each
other between all things and the good forms, any other form is corrupt, and forms come in the order
of the places that the things have. -/
structure OrderedForm {α β : Type} [LT β] (write : α → Bytes) (read : Bytes → Except RowKeyError α)
    (Good : Bytes → Prop) (place : α → β) : Prop where
  good_write : ∀ a, Good (write a)
  read_write : ∀ a, read (write a) = .ok a
  write_read : ∀ form, Good form → ∃ a, read form = .ok a ∧ write a = form
  corrupt : ∀ form, ¬ Good form →
    ∃ cause, read form = .error cause ∧ (Error.rowKey cause).code = .corruptRowKey
  write_lt_iff : ∀ a b, write a < write b ↔ place a < place b

theorem OrderedForm.of_read_eq_ok_iff {α β : Type} [LT β] {write : α → Bytes}
    {read : Bytes → Except RowKeyError α} {Good : Bytes → Prop} {place : α → β}
    (hread : ∀ form a, read form = .ok a ↔ form = write a)
    (hgood : ∀ form, (∃ a, read form = .ok a) ↔ Good form)
    (hlt : ∀ a b, write a < write b ↔ place a < place b) : OrderedForm write read Good place where
  good_write a := (hgood _).1 ⟨a, (hread _ a).2 rfl⟩
  read_write a := (hread _ a).2 rfl
  write_read form h := by
    obtain ⟨a, ha⟩ := (hgood form).2 h
    exact ⟨a, ha, ((hread form a).1 ha).symm⟩
  corrupt form h := by
    cases hform : read form with
    | ok a => exact absurd ((hgood form).1 ⟨a, hform⟩) h
    | error cause => exact ⟨cause, rfl, rfl⟩
  write_lt_iff := hlt

theorem Field.exists_ofId?_eq_some_iff {id : UInt8} :
    (∃ f, ofId? id = some f) ↔ 1 ≤ id.toNat ∧ id.toNat ≤ 15 := by
  constructor
  · rintro ⟨f, hf⟩
    have hid : f.id = id := by simpa using List.find?_some hf
    rw [← hid]
    cases f <;> decide
  · intro h
    have hall : ∀ n ≤ 15, 1 ≤ n → (ofId? (UInt8.ofNat n)).isSome = true := by decide
    have hsome := hall id.toNat h.2 h.1
    rw [UInt8.ofNat_toNat] at hsome
    exact Option.isSome_iff_exists.1 hsome

namespace MailboxId

theorem toNat_inj {m n : MailboxId} : m.toNat = n.toNat ↔ m = n := by
  rw [toNat, toNat, Bytes.toNatBE_inj (by rw [m.length_bytes, n.length_bytes])]
  exact ⟨ext, congrArg bytes⟩

end MailboxId

namespace RowKey

variable {row : Bytes}

def IsWritten (row : Bytes) : Prop :=
  17 ≤ row.length ∧ ∃ id, row[16]? = some id ∧ 1 ≤ id.toNat ∧ id.toNat ≤ 15

def place (k : RowKey) : Nat ×ₗ Nat ×ₗ Bytes :=
  toLex (k.mailbox.toNat, toLex (k.field.id.toNat, k.term.bytes))

theorem isWritten_encode (k : RowKey) : IsWritten k.encode := by
  have hid : k.encode[16]? = some k.field.id := by
    rw [encode_eq, List.getElem?_append_right (Nat.le_of_eq k.mailbox.length_bytes),
      k.mailbox.length_bytes]
    rfl
  refine ⟨?_, _, hid, Field.exists_ofId?_eq_some_iff.1 ⟨k.field, Field.ofId?_id k.field⟩⟩
  rw [encode_eq, List.length_append, k.mailbox.length_bytes, List.length_cons]
  omega

theorem IsWritten.exists_encode_eq (h : IsWritten row) : ∃ k : RowKey, row = k.encode := by
  obtain ⟨hlength, id, hid, hrange⟩ := h
  obtain ⟨f, hf⟩ := Field.exists_ofId?_eq_some_iff.2 hrange
  obtain ⟨hlt, hget⟩ := List.getElem?_eq_some_iff.1 hid
  have hfield : f.id = id := by simpa using List.find?_some hf
  have hmailbox : (row.take 16).length = 16 := by
    rw [List.length_take]
    omega
  refine ⟨⟨⟨row.take 16, hmailbox⟩, f, ⟨row.drop 17⟩⟩, ?_⟩
  rw [encode_eq, hfield, ← hget, ← List.drop_eq_getElem_cons, List.take_append_drop]

theorem exists_decode_eq_ok_iff : (∃ k, decode row = .ok k) ↔ IsWritten row := by
  simp only [decode_eq_ok_iff]
  constructor
  · rintro ⟨k, rfl⟩
    exact isWritten_encode k
  · exact IsWritten.exists_encode_eq

theorem encode_lt_encode_iff (k l : RowKey) : k.encode < l.encode ↔ k.place < l.place := by
  have hlength : k.mailbox.bytes.length = l.mailbox.bytes.length := by
    rw [k.mailbox.length_bytes, l.mailbox.length_bytes]
  rw [encode_eq, encode_eq, Bytes.append_lt_append_iff_of_length hlength, List.cons_lt_cons_iff,
    Bytes.lt_iff_toNatBE_lt hlength, ← Bytes.toNatBE_inj hlength, UInt8.lt_iff_toNat_lt,
    ← UInt8.toNat_inj, place, place, Prod.Lex.toLex_lt_toLex, Prod.Lex.toLex_lt_toLex]
  rfl

theorem encode_sentDate_lt_iff (m : MailboxId) (s t : Millis) :
    encode ⟨m, .sentDate, .sentDate s⟩ < encode ⟨m, .sentDate, .sentDate t⟩ ↔
      s.toInt < t.toInt := by
  rw [encode, encode, Bytes.append_lt_append_iff, Term.sentDate_lt_sentDate_iff,
    Int64.lt_iff_toInt_lt]

end RowKey

theorem Qualifier.encode_lt_encode_iff (a b : MessageId) :
    encode a < encode b ↔ a.toNat < b.toNat := by
  have fits : ∀ id : MessageId, id.toNat % 256 ^ 8 = id.toNat := fun id =>
    Nat.mod_eq_of_lt id.toNat_lt
  rw [encode, encode, Bytes.bigEndian_lt_bigEndian_iff, fits, fits]

theorem row_keys_are_ordered_forms :
    OrderedForm RowKey.encode RowKey.decode RowKey.IsWritten RowKey.place ∧
      (∀ (m : MailboxId) (s t : Millis),
        RowKey.encode ⟨m, .sentDate, .sentDate s⟩ < RowKey.encode ⟨m, .sentDate, .sentDate t⟩ ↔
          s.toInt < t.toInt) ∧
      OrderedForm Qualifier.encode Qualifier.decode (·.length = 8) UInt64.toNat :=
  ⟨.of_read_eq_ok_iff (fun _ _ => RowKey.decode_eq_ok_iff)
      (fun _ => RowKey.exists_decode_eq_ok_iff) RowKey.encode_lt_encode_iff,
    RowKey.encode_sentDate_lt_iff,
    .of_read_eq_ok_iff (fun _ _ => Qualifier.decode_eq_ok_iff)
      (fun _ => Qualifier.exists_decode_eq_ok_iff) Qualifier.encode_lt_encode_iff⟩

end MailIndex
