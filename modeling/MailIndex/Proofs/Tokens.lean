import Mathlib.Data.List.TakeWhile
import MailIndex.Proofs.Text.Split
import MailIndex.Proofs.Text.Uppercase
import MailIndex.Proofs.Text.Utf8
import MailIndex.Query

namespace MailIndex

namespace Text

theorem of_inBands_cons_cons {lo hi n : Nat} {rest : Bands}
    (h : inBands (lo :: hi :: rest) n = true) : lo ≤ n ∧ n < hi ∨ inBands rest n = true := by
  simp only [inBands, List.takeWhile_cons] at h
  by_cases hlo : lo ≤ n
  · by_cases hhi : hi ≤ n
    · right
      simp only [hlo, hhi, decide_true, if_true, List.length_cons] at h
      rw [inBands]
      rw [beq_iff_eq] at h ⊢
      omega
    · exact .inl ⟨hlo, by omega⟩
  · simp [hlo] at h

def blankCodes : List Nat :=
  [9, 10, 11, 12, 13, 0x20, 0x85, 0xA0, 0x1680, 0x2000, 0x2001, 0x2002, 0x2003, 0x2004, 0x2005,
    0x2006, 0x2007, 0x2008, 0x2009, 0x200A, 0x2028, 0x2029, 0x202F, 0x205F, 0x3000]

theorem mem_blankCodes {n : Nat} (h : inBands blankBands n = true) : n ∈ blankCodes := by
  simp only [blankCodes, List.mem_cons, List.not_mem_nil, or_false]
  iterate 10
    rcases of_inBands_cons_cons h with hn | h
    · omega
  cases h

theorem isTokenChar_of_isBlank {c : Char} (h : isBlank c = true) :
    Tokens.isTokenChar c = false := by
  have hall : ∀ n ∈ blankCodes, Tokens.isTokenChar (Char.ofNat n) = false := by
    decide +kernel
  rw [← Char.ofNat_toNat c]
  exact hall c.toNat (mem_blankCodes h)

theorem isBlank_of_trim_eq_nil {s : List Char} (h : trim s = []) : ∀ c ∈ s, isBlank c = true := by
  rw [trim, trimEnd, trimStart, List.reverse_eq_nil_iff, List.dropWhile_eq_nil_iff] at h
  intro c hc
  rw [← List.takeWhile_append_dropWhile (p := isBlank) (l := s)] at hc
  rcases List.mem_append.1 hc with hc | hc
  · exact List.mem_takeWhile_imp hc
  · exact h c (List.mem_reverse.2 hc)

theorem eq_nil_of_mem_splitOn {sep : Char → Bool} {s : List Char} (h : ∀ c ∈ s, sep c = true) :
    ∀ piece ∈ splitOn sep s, piece = [] := by
  intro piece hpiece
  refine List.eq_nil_iff_forall_not_mem.2 fun c hc => ?_
  have hsep := h c ((infix_of_mem_splitOn hpiece).subset hc)
  rw [forall_mem_of_mem_splitOn hpiece c hc] at hsep
  cases hsep

def OccursIn (s t : List Char) : Prop := ∃ u, u <:+: t ∧ asciiUpper u = asciiUpper s

theorem OccursIn.refl (s : List Char) : OccursIn s s := ⟨s, List.infix_refl s, rfl⟩

end Text

namespace Tokens

open Text

variable {s t u : List Char}

theorem trimJoiners_infix_trimJoiners (h : s <:+: t) : trimJoiners s <:+: trimJoiners t := by
  rw [trimJoiners, trimJoiners, List.reverse_infix]
  exact dropWhile_infix_dropWhile _ (List.reverse_infix.2 (dropWhile_infix_dropWhile _ h))

theorem mem_ofChars :
    u ∈ ofChars s ↔
      (∃ piece ∈ splitOn (fun c => ! isTokenChar c) s, trimJoiners piece = u) ∧ u ≠ [] := by
  simp [ofChars]

/-- A stretch of token characters is found in some token, but for the marks at its ends. -/
theorem exists_mem_ofChars (h : s <:+: t) (hs : ∀ c ∈ s, isTokenChar c = true)
    (hne : trimJoiners s ≠ []) : ∃ u ∈ ofChars t, trimJoiners s <:+: u := by
  have hsep : ∀ c ∈ s, (! isTokenChar c) = false := by simpa using hs
  obtain ⟨piece, hpiece, hwithin⟩ := (infix_iff_exists_mem_splitOn hsep).1 h
  have htrim := trimJoiners_infix_trimJoiners hwithin
  refine ⟨trimJoiners piece, mem_ofChars.2 ⟨⟨piece, hpiece, rfl⟩, ?_⟩, htrim⟩
  intro hnil
  rw [hnil] at htrim
  exact hne (List.infix_nil.1 htrim)

theorem exists_mem_ofChars_of_infix (h : s <:+: t) (hu : u ∈ ofChars s) :
    ∃ v ∈ ofChars t, u <:+: v := by
  obtain ⟨⟨piece, hpiece, rfl⟩, hne⟩ := mem_ofChars.1 hu
  have htoken : ∀ c ∈ piece, isTokenChar c = true := by
    simpa using forall_mem_of_mem_splitOn hpiece
  exact exists_mem_ofChars ((infix_of_mem_splitOn hpiece).trans h) htoken hne

theorem isJoiner_of_isAlphanumeric {c : Char} (h : isAlphanumeric c = true) :
    isJoiner c = false := by
  rw [Bool.eq_false_iff]
  intro hjoiner
  simp only [isJoiner, Bool.or_eq_true, beq_iff_eq] at hjoiner
  rcases hjoiner with ((((rfl | rfl) | rfl) | rfl) | rfl) | rfl <;> revert h <;> decide

theorem trimJoiners_eq_self (h : ∀ c ∈ s, isAlphanumeric c = true) : trimJoiners s = s := by
  have hself : ∀ s : List Char, (∀ c ∈ s, isAlphanumeric c = true) → s.dropWhile isJoiner = s := by
    intro s hs
    cases s with
    | nil => rfl
    | cons c s => simp [isJoiner_of_isAlphanumeric (hs c List.mem_cons_self)]
  rw [trimJoiners, hself s h, hself s.reverse (by simpa using h), List.reverse_reverse]

theorem exists_mem_ofChars_of_isAlphanumeric (h : s <:+: t)
    (hs : ∀ c ∈ s, isAlphanumeric c = true) (hne : s ≠ []) : ∃ u ∈ ofChars t, s <:+: u := by
  have htrim := trimJoiners_eq_self hs
  have htoken : ∀ c ∈ s, isTokenChar c = true := by
    intro c hc
    rw [isTokenChar, hs c hc, Bool.true_or]
  rw [← htrim]
  exact exists_mem_ofChars h htoken (by rwa [htrim])

theorem ofChars_ne_nil {c : Char} (hc : c ∈ s) (h : isAlphanumeric c = true) : ofChars s ≠ [] := by
  have hone : [c] <:+: s := by
    obtain ⟨before, after, rfl⟩ := List.append_of_mem hc
    exact ⟨before, after, by simp⟩
  obtain ⟨u, hu, -⟩ := exists_mem_ofChars_of_isAlphanumeric hone (by simpa using h) (by simp)
  exact List.ne_nil_of_mem hu

theorem isJoiner_toUpper (c : Char) : isJoiner c.toUpper = isJoiner c :=
  apply_toUpper (by decide +kernel) c

theorem isTokenChar_toUpper (c : Char) : isTokenChar c.toUpper = isTokenChar c :=
  apply_toUpper (by decide +kernel) c

theorem trimJoiners_asciiUpper (s : List Char) :
    trimJoiners (asciiUpper s) = asciiUpper (trimJoiners s) := by
  have hjoiner : isJoiner ∘ Char.toUpper = isJoiner := funext isJoiner_toUpper
  simp only [trimJoiners, asciiUpper, List.dropWhile_map, ← List.map_reverse, hjoiner]

theorem ofChars_asciiUpper (s : List Char) :
    ofChars (asciiUpper s) = (ofChars s).map asciiUpper := by
  have hsep : ∀ c : Char, (! isTokenChar c.toUpper) = ! isTokenChar c := fun c =>
    congrArg not (isTokenChar_toUpper c)
  have htrim : trimJoiners ∘ List.map Char.toUpper = asciiUpper ∘ trimJoiners :=
    funext trimJoiners_asciiUpper
  have hne : (fun t => decide (t ≠ [])) ∘ asciiUpper = fun t => decide (t ≠ []) := by
    funext t
    simp [asciiUpper]
  rw [ofChars, asciiUpper, splitOn_map hsep, List.map_map, htrim, ← List.map_map, List.filter_map,
    hne, ofChars]

end Tokens

theorem tokenize_congr {s t : String} (h : Text.asciiUpper s.toList = Text.asciiUpper t.toList) :
    tokenize s = tokenize t := by
  have hterms : ∀ u : List Char, (Tokens.ofChars u).map Term.ofChars =
      (Tokens.ofChars (Text.asciiUpper u)).map Term.ofChars := by
    intro u
    rw [Tokens.ofChars_asciiUpper, List.map_map]
    refine List.map_congr_left fun v _ => ?_
    rw [Function.comp_apply, Term.ofChars, Term.ofChars, Text.upper_asciiUpper]
  rw [tokenize, hterms, h, ← hterms, tokenize]

theorem exists_mem_tokenize {s t : String} (h : Text.OccursIn s.toList t.toList) {term : Term}
    (hterm : term ∈ tokenize s) : ∃ whole ∈ tokenize t, term.bytes <:+: whole.bytes := by
  obtain ⟨u, hu, hcase⟩ := h
  have hcongr : tokenize (String.ofList u) = tokenize s :=
    tokenize_congr (by rwa [String.toList_ofList])
  rw [← hcongr, tokenize, String.toList_ofList] at hterm
  obtain ⟨token, htoken, rfl⟩ := List.mem_map.1 hterm
  obtain ⟨whole, hwhole, hwithin⟩ := Tokens.exists_mem_ofChars_of_infix hu htoken
  exact ⟨.ofChars whole, List.mem_map_of_mem hwhole,
    Text.encode_infix_encode_iff.2 (Text.upper_infix_upper hwithin)⟩

theorem tokenize_ne_nil {s : String} {c : Char} (hc : c ∈ s.toList)
    (h : Text.isAlphanumeric c = true) : tokenize s ≠ [] :=
  mt List.map_eq_nil_iff.1 (Tokens.ofChars_ne_nil hc h)

theorem tokenize_of_trim_eq_nil {value : String} (h : Text.trim value.toList = []) :
    tokenize value = [] := by
  have hseparators : ∀ c ∈ value.toList, (! Tokens.isTokenChar c) = true := by
    intro c hc
    rw [Text.isTokenChar_of_isBlank (Text.isBlank_of_trim_eq_nil h c hc)]
    rfl
  rw [tokenize, Tokens.ofChars, List.map_eq_nil_iff, List.filter_eq_nil_iff]
  intro token htoken
  obtain ⟨piece, hpiece, rfl⟩ := List.mem_map.1 htoken
  rw [Text.eq_nil_of_mem_splitOn hseparators piece hpiece]
  decide

theorem Query.terms_eq_nil_iff {value : String} :
    Query.terms value = [] ↔ Text.trim value.toList = [] := by
  constructor
  · intro h
    rw [terms] at h
    split at h
    · split at h
      · assumption
      · cases h
    · rename_i hne
      exact absurd h hne
  · intro h
    rw [terms, tokenize_of_trim_eq_nil h, h]

end MailIndex
