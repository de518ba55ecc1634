import MailIndex.Proofs.Criterion

namespace MailIndex.Filter

open MailIndex.Query

def containsText (start needle : Bytes) : String :=
  String.ofList ('^' :: escapedChars start ++ ".*?".toList ++ escapedChars needle)

theorem prepare_rowContains_eq_error_iff (start needle : Bytes) (cause : FilterError) :
    (rowContains start needle).prepare = .error cause ↔
      Regex.containsLimit < start.length + needle.length ∧
        cause = .badPattern (containsText start needle) := by
  rw [prepare_rowContains]
  split
  · rename_i hfits
    simp [Nat.not_lt.2 hfits]
  · rename_i hfits
    simp [Nat.lt_of_not_le hfits, containsText, eq_comm]

/-- A row passes if it begins with the one text and holds the other behind it. A term is looked for
behind the start of its field, and the rows that begin with it there are among those that pass. -/
theorem rowContains_exact (start needle : Bytes) :
    ((rowContains start needle).Ready ↔
        start.length + needle.length ≤ Regex.containsLimit) ∧
      (∀ cause, (rowContains start needle).prepare = .error cause ↔
        Regex.containsLimit < start.length + needle.length ∧
          cause = .badPattern (containsText start needle)) ∧
      (∀ row cell, (rowContains start needle).Passes row cell ↔
        start.length + needle.length ≤ Regex.containsLimit ∧
          start <+: row ∧ needle <:+: row.drop start.length) ∧
      ∀ (m : MailboxId) (f : Field) (t : Term),
        ((termMatch m f t).Ready ↔ t.bytes.length ≤ Criterion.termLimit) ∧
        ∀ row cell,
          ((termMatch m f t).Passes row cell ↔
            t.bytes.length ≤ Criterion.termLimit ∧ RowKey.fieldStart m f <+: row ∧
              t.bytes <:+: row.drop (RowKey.fieldStart m f).length) ∧
          ((termMatch m f t).Passes row cell ↔
            (rowContains (RowKey.fieldStart m f) t.bytes).Passes row cell) := by
  refine ⟨ready_rowContains, prepare_rowContains_eq_error_iff start needle,
    fun row cell => passes_rowContains, fun m f t => ⟨ready_termMatch m f t, fun row cell =>
      ⟨passes_termMatch_row m f t row cell, ?_⟩⟩⟩
  have hlimit : Regex.containsLimit = 17 + Criterion.termLimit := rfl
  rw [passes_termMatch_row, passes_rowContains, length_fieldStart, hlimit,
    Nat.add_le_add_iff_left]

example :
    let start : Bytes := [0x00, 0x2E, 0x2A, 0xFF, 0x0A]
    let needle : Bytes := [0x0A, 0x2B]
    (rowContains start needle).Passes (start ++ [0x78] ++ needle) ⟨[], []⟩ ∧
      ¬ (rowContains start needle).Passes (start ++ [0x2B]) ⟨[], []⟩ := by
  simp only [passes_rowContains]
  decide

theorem rowContains_long_needle_fails :
    let start : Bytes := [0x00]
    let needle : Bytes := List.replicate 400000 0x41
    ¬ (rowContains start needle).Ready ∧
      start <+: start ++ needle ∧ needle <:+: (start ++ needle).drop start.length ∧
      ∀ cell, ¬ (rowContains start needle).Passes (start ++ needle) cell := by
  intro start needle
  have hlong : ¬ start.length + needle.length ≤ Regex.containsLimit := by
    rw [List.length_replicate]
    decide
  refine ⟨mt ready_rowContains.1 hlong, List.prefix_append _ _, ?_, fun cell hpasses => ?_⟩
  · rw [List.drop_left]
  · exact hlong (passes_rowContains.1 hpasses).1

end MailIndex.Filter
