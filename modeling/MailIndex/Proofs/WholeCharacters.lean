import MailIndex.Proofs.TextSearch

namespace MailIndex

open MailIndex.Filter MailIndex.Query

inductive Term.MadeOf : List Char → Term → Prop
  | text (value : String) : MadeOf value.toList (.ofText value)
  | token {value : String} {chars : List Char} :
    chars ∈ Tokens.ofChars value.toList → MadeOf chars (.ofChars chars)

namespace Term

variable {chars : List Char} {t : Term}

theorem MadeOf.eq_ofChars (h : t.MadeOf chars) : t = .ofChars chars := by
  cases h <;> rfl

theorem exists_madeOf_of_mem_tokenize {value : String} (h : t ∈ tokenize value) :
    ∃ chars, t.MadeOf chars := by
  obtain ⟨chars, hchars, rfl⟩ := List.mem_map.1 h
  exact ⟨chars, .token hchars⟩

theorem exists_madeOf_of_mem_terms {value : String} (h : t ∈ terms value) :
    ∃ chars, t.MadeOf chars := by
  rw [terms] at h
  split at h
  · split at h
    · cases h
    · rename_i rest hrest
      rw [List.mem_singleton.1 h]
      have hwhole := MadeOf.text (String.ofList (Text.trim value.toList))
      rw [ofText, String.toList_ofList] at hwhole
      exact ⟨_, hwhole⟩
  · exact exists_madeOf_of_mem_tokenize h

end Term

def RowKey.StandsAt (m : MailboxId) (f : Field) (row : Bytes) (t : Term) (before after : Bytes) :
    Prop :=
  row = RowKey.fieldStart m f ++ before ++ t.bytes ++ after

section Places

variable {m : MailboxId} {f : Field} {t : Term} {stored query : List Char}

theorem passes_termMatch_iff_exists_standsAt (hfits : t.bytes.length ≤ Criterion.termLimit)
    {row : Bytes} {cell : Cell} :
    (termMatch m f t).Passes row cell ↔ ∃ before after, RowKey.StandsAt m f row t before after := by
  rw [passes_termMatch_row, and_iff_right hfits]
  exact exists_between_iff.symm

theorem standsAt_ofChars_iff (hne : query ≠ []) {before after : Bytes} :
    RowKey.StandsAt m f (RowKey.encode ⟨m, f, .ofChars stored⟩) (.ofChars query) before after ↔
      ∃ left right, Text.upper stored = left ++ Text.upper query ++ right ∧
        Text.encode left = before ∧ Text.encode right = after := by
  rw [RowKey.StandsAt, RowKey.encode, List.append_assoc, List.append_assoc,
    List.append_cancel_left_eq, ← List.append_assoc]
  exact Text.encode_eq_append_iff (mt Text.upper_eq_nil_iff.1 hne)

end Places

namespace Query

/-- A term of text is found in a row just where its upper case stands in that of the stored text,
from one whole character to another, unless there is no room for its pattern. -/
theorem termMatch_keeps_characters (m : MailboxId) (f : Field) :
    (∀ value t, t ∈ tokenize value ∨ t ∈ terms value → ∃ chars, t.MadeOf chars) ∧
    ∀ {stored query : Term} {s q : List Char}, stored.MadeOf s → query.MadeOf q → query ≠ .empty →
      let row := RowKey.encode ⟨m, f, stored⟩
      (query.bytes.length ≤ Criterion.termLimit → ∀ cell,
        ((termMatch m f query).Passes row cell ↔ Text.upper q <:+: Text.upper s) ∧
        ((termMatch m f query).Passes row cell ↔
          ∃ before after, RowKey.StandsAt m f row query before after)) ∧
      (∀ before after, RowKey.StandsAt m f row query before after ↔
        ∃ left right, Text.upper s = left ++ Text.upper q ++ right ∧
          Text.encode left = before ∧ Text.encode right = after) ∧
      (Criterion.termLimit < query.bytes.length →
        ∃ pattern, (termMatch m f query).prepare = .error (.badPattern pattern)) := by
  constructor
  · rintro value t (ht | ht)
    · exact Term.exists_madeOf_of_mem_tokenize ht
    · exact Term.exists_madeOf_of_mem_terms ht
  · intro stored query s q hstored hquery hne row
    obtain rfl := hstored.eq_ofChars
    obtain rfl := hquery.eq_ofChars
    have hq : q ≠ [] := by
      rintro rfl
      exact hne rfl
    refine ⟨fun hfits cell => ⟨?_, passes_termMatch_iff_exists_standsAt hfits⟩,
      fun before after => standsAt_ofChars_iff hq, fun hlong => ?_⟩
    · rw [passes_termMatch]
      simp only [hfits, true_and]
      exact Text.encode_infix_encode_iff
    · exact prepare_of_not_ready (mt (ready_termMatch ..).1 (Nat.not_le.2 hlong))

/-- One character may become two, and a search may find just the second of these. -/
theorem termMatch_keeps_characters_of_sharp_s :
    Term.MadeOf "straße".toList (.ofChars "straße".toList) ∧
      Term.MadeOf "se".toList (.ofText "se") ∧ Term.ofText "se" ≠ .empty ∧
      (Term.ofText "se").bytes.length ≤ Criterion.termLimit ∧
      ∀ m f cell, (termMatch m f (.ofText "se")).Passes
        (RowKey.encode ⟨m, f, .ofChars "straße".toList⟩) cell := by
  have htoken : "straße".toList ∈ Tokens.ofChars "Haupt straße".toList := by
    decide +kernel
  have hne : Term.ofText "se" ≠ .empty := by
    decide +kernel
  have hfits : (Term.ofText "se").bytes.length ≤ Criterion.termLimit := by
    decide +kernel
  have hinfix : Text.upper "se".toList <:+: Text.upper "straße".toList :=
    ⟨"STRAS".toList, [], by decide +kernel⟩
  refine ⟨.token htoken, .text "se", hne, hfits, fun m f cell => ?_⟩
  have hfound := ((termMatch_keeps_characters m f).2 (.token htoken) (.text "se") hne).1 hfits cell
  exact hfound.1.2 hinfix

theorem termMatch_misses_long_text :
    let text := Index.longText 400000
    Term.MadeOf text.toList (.ofText text) ∧ Term.ofText text ≠ .empty ∧
      Text.upper text.toList <:+: Text.upper text.toList ∧
      ∀ m f cell, ¬ (termMatch m f (.ofText text)).Passes
        (RowKey.encode ⟨m, f, .ofText text⟩) cell := by
  intro text
  have hlength : (Term.ofText (Index.longText 400000)).bytes.length = 400000 := by
    rw [Term.ofText, Index.longText, String.toList_ofList, Index.length_ofChars_replicate]
  refine ⟨.text text, ?_, List.infix_refl _, fun m f cell hpasses => ?_⟩
  · intro hempty
    rw [hempty] at hlength
    cases hlength
  · have hfits := ((passes_termMatch ..).1 hpasses).1
    rw [hlength] at hfits
    exact absurd hfits (by decide)

end Query

end MailIndex
