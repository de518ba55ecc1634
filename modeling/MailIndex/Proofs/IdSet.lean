import MailIndex.CommandLine.Values
import MailIndex.Proofs.List
import MailIndex.Proofs.Text.Decimal
import MailIndex.Proofs.Text.Split

namespace MailIndex.CommandLine

open Text

variable {s t part : List Char} {mark : Char} {r : IdRange}
  {id first last : MessageId} {ranges : List IdRange}

section Grammar

inductive IsRange : List Char → IdRange → Prop
  | single {s : List Char} {id : MessageId} : IsDecimal (trim s) id.toNat → IsRange s ⟨id, id⟩
  | between {s t : List Char} {first last : MessageId} : IsDecimal (trim s) first.toNat →
      IsDecimal (trim t) last.toNat → first ≤ last → IsRange (s ++ ':' :: t) ⟨first, last⟩

def ShowsId (s : List Char) (id : MessageId) : Prop :=
  ∃ before after, (∀ c ∈ before, isBlank c = true) ∧ (∀ c ∈ after, isBlank c = true) ∧
    s = before ++ Nat.toDigits 10 id.toNat ++ after

inductive ShowsRanges : List Char → List IdRange → Prop
  | blank {s : List Char} : (∀ c ∈ s, isBlank c = true) → ShowsRanges s []
  | single {s : List Char} {id : MessageId} : ShowsId s id → ShowsRanges s [⟨id, id⟩]
  | between {s t : List Char} {first last : MessageId} : ShowsId s first → ShowsId t last →
      first ≤ last → ShowsRanges (s ++ ':' :: t) [⟨first, last⟩]

/-- What is left between the commas of a text when blanks are taken off, and what is empty then. -/
def IsParts (s : List Char) (parts : List (List Char)) : Prop :=
  ∃ pieces, [','].intercalate pieces = s ∧ (∀ piece ∈ pieces, ',' ∉ piece) ∧
    parts = (pieces.map trim).filter (· ≠ [])

theorem IsRange.first_le_last (h : IsRange part r) : r.first ≤ r.last := by
  cases h with
  | single => exact UInt64.le_refl _
  | between _ _ hle => exact hle

theorem IsRange.ne_nil (h : IsRange part r) : part ≠ [] := by
  cases h with
  | single hs =>
    rintro rfl
    exact hs.ne_nil rfl
  | between => simp

theorem IsRange.trim (h : IsRange part r) : IsRange (trim part) r := by
  cases h with
  | single hs => exact .single (by rwa [(trimmed_trim _).trim_eq])
  | between hs ht hle =>
    rw [trim_append_cons (by decide)]
    exact .between (by rwa [trim_trimStart]) (by rwa [trim_trimEnd]) hle

theorem ShowsId.isDecimal (h : ShowsId s id) : IsDecimal (Text.trim s) id.toNat := by
  obtain ⟨before, after, hbefore, hafter, rfl⟩ := h
  have hdigits : ∀ c ∈ Nat.toDigits 10 id.toNat, isBlank c = false :=
    fun c hc => isBlank_of_isDigit (isDigit_of_mem_toDigits hc)
  rw [trim_append_of_blank_right hafter, trim_append_of_blank hbefore,
    trim_eq_self_of_forall_not_isBlank hdigits]
  exact .plain (isDigits_toDigits id.toNat)

theorem not_mem_of_isDecimal_trim {n : Nat} {c : Char} (h : IsDecimal (Text.trim s) n)
    (hblank : isBlank c = false) (hdigit : c.isDigit = false) (hplus : c ≠ '+') : c ∉ s := by
  intro hc
  rcases h.isDigit_or c (mem_trim_of_mem hc hblank) with hd | hd
  · exact Bool.eq_false_iff.1 hdigit hd
  · exact hplus hd

end Grammar

section Ranges

theorem splitOnce_of_not_mem (h : mark ∉ s) : splitOnce mark s = none := by
  have hall : ∀ c ∈ s, decide (c ≠ mark) = true := fun c hc =>
    decide_eq_true fun heq => h (heq ▸ hc)
  rw [splitOnce, List.span_eq_takeWhile_dropWhile, List.dropWhile_eq_nil_iff.2 hall]

theorem splitOnce_append_cons (h : mark ∉ s) :
    splitOnce mark (s ++ mark :: t) = some (s, t) := by
  have hall : ∀ c ∈ s, decide (c ≠ mark) = true := fun c hc =>
    decide_eq_true fun heq => h (heq ▸ hc)
  rw [splitOnce, List.span_eq_takeWhile_dropWhile, List.takeWhile_append_of_pos hall,
    List.dropWhile_append_of_pos hall]
  simp

theorem readMessageId_eq_ok_iff : readMessageId s = .ok id ↔ IsDecimal (trim s) id.toNat := by
  rw [readMessageId, ← readUInt64_eq_ok_iff]
  cases readUInt64 (trim s) with
  | error cause => exact iff_of_false nofun nofun
  | ok word => simp [Except.mapError]

theorem readRange_eq_ok_iff_of_not_mem (h : ':' ∉ s) :
    readRange s = .ok ⟨first, last⟩ ↔ readMessageId s = .ok first ∧ last = first := by
  rw [readRange, splitOnce_of_not_mem h]
  cases readMessageId s with
  | error cause => exact iff_of_false nofun nofun
  | ok id =>
    simp only [Except.map, Except.ok.injEq, IdRange.mk.injEq]
    refine and_congr_right ?_
    rintro rfl
    exact eq_comm

theorem readRange_append_cons (h : ':' ∉ s) :
    readRange (s ++ ':' :: t) =
      (readMessageId s).bind fun a => (readMessageId t).bind fun b =>
        if b < a then .error (.reversed (String.ofList (s ++ ':' :: t))) else .ok ⟨a, b⟩ := by
  rw [readRange, splitOnce_append_cons h]
  rfl

theorem readRange_append_cons_eq_ok_iff (h : ':' ∉ s) :
    readRange (s ++ ':' :: t) = .ok ⟨first, last⟩ ↔
      readMessageId s = .ok first ∧ readMessageId t = .ok last ∧ first ≤ last := by
  rw [readRange_append_cons h]
  cases readMessageId s with
  | error cause => exact iff_of_false nofun nofun
  | ok a =>
    cases readMessageId t with
    | error cause => exact iff_of_false nofun nofun
    | ok b =>
      simp only [Except.bind, Except.ok.injEq]
      split
      · rename_i hreversed
        refine iff_of_false nofun ?_
        rintro ⟨rfl, rfl, hle⟩
        exact UInt64.not_lt.2 hle hreversed
      · rename_i hle
        rw [Except.ok.injEq, IdRange.mk.injEq]
        constructor
        · rintro ⟨rfl, rfl⟩
          exact ⟨rfl, rfl, UInt64.not_lt.1 hle⟩
        · rintro ⟨rfl, rfl, -⟩
          exact ⟨rfl, rfl⟩

theorem readRange_eq_ok_iff : readRange part = .ok r ↔ IsRange part r := by
  constructor
  · intro h
    by_cases hcolon : ':' ∈ part
    · obtain ⟨s, t, rfl, hs⟩ := List.eq_append_cons_of_mem hcolon
      obtain ⟨hfirst, hlast, hle⟩ := (readRange_append_cons_eq_ok_iff hs).1 h
      exact .between (readMessageId_eq_ok_iff.1 hfirst) (readMessageId_eq_ok_iff.1 hlast) hle
    · obtain ⟨first, last⟩ := r
      obtain ⟨hid, rfl⟩ := (readRange_eq_ok_iff_of_not_mem hcolon).1 h
      exact .single (readMessageId_eq_ok_iff.1 hid)
  · rintro (hs | ⟨hs, ht, hle⟩)
    · have hcolon : ':' ∉ part := not_mem_of_isDecimal_trim hs rfl rfl (by decide)
      exact (readRange_eq_ok_iff_of_not_mem hcolon).2 ⟨readMessageId_eq_ok_iff.2 hs, rfl⟩
    · exact (readRange_append_cons_eq_ok_iff (not_mem_of_isDecimal_trim hs rfl rfl (by decide))).2
        ⟨readMessageId_eq_ok_iff.2 hs, readMessageId_eq_ok_iff.2 ht, hle⟩

end Ranges

section Parts

theorem idSetParts_append_cons (s t : List Char) :
    idSetParts (s ++ ',' :: t) = idSetParts s ++ idSetParts t := by
  rw [idSetParts, splitOn_append_separator (by decide), List.map_append, List.filter_append]
  rfl

theorem idSetParts_of_not_mem (h : ',' ∉ s) : idSetParts s = [trim s].filter (· ≠ []) := by
  have hsep : ∀ c ∈ s, decide (c = ',') = false := fun c hc =>
    decide_eq_false fun heq => h (heq ▸ hc)
  rw [idSetParts, splitOn_eq_singleton hsep]
  rfl

theorem idSetParts_intercalate (pieces : List (List Char)) :
    idSetParts ([','].intercalate pieces) = pieces.flatMap idSetParts :=
  map_intercalate_eq_flatMap rfl idSetParts_append_cons pieces

theorem isParts_iff {parts : List (List Char)} : IsParts s parts ↔ parts = idSetParts s := by
  constructor
  · rintro ⟨pieces, rfl, hpieces, rfl⟩
    rw [idSetParts_intercalate, ← List.flatMap_singleton' (pieces.map trim), List.flatMap_map,
      List.filter_flatMap]
    exact List.flatMap_congr fun piece hpiece => (idSetParts_of_not_mem (hpieces piece hpiece)).symm
  · rintro rfl
    refine ⟨splitOn (· = ',') s, intercalate_splitOn ',' s, fun piece hpiece hcomma => ?_, rfl⟩
    exact of_decide_eq_false (forall_mem_of_mem_splitOn hpiece ',' hcomma) rfl

theorem parseIdSet_eq_ok_iff {text : String} :
    parseIdSet text = .ok ranges ↔
      idSetParts text.toList ≠ [] ∧ (idSetParts text.toList).mapM readRange = .ok ranges := by
  rw [parseIdSet]
  split
  · rename_i hnil
    exact iff_of_false nofun fun h => h.1 hnil
  · rename_i hne
    exact (and_iff_right hne).symm

theorem mapM_readRange_eq_ok_iff {parts : List (List Char)} :
    parts.mapM readRange = .ok ranges ↔ List.Forall₂ IsRange parts ranges := by
  simp only [mapM_eq_ok_iff_forall₂, readRange_eq_ok_iff]

theorem idSetParts_of_isRange (h : IsRange part r) (hcomma : ',' ∉ part) :
    List.Forall₂ IsRange (idSetParts part) [r] := by
  have hkept : [trim part].filter (· ≠ []) = [trim part] := by simp [h.trim.ne_nil]
  rw [idSetParts_of_not_mem hcomma, hkept]
  exact .cons h.trim .nil

theorem ShowsId.not_mem_comma (h : ShowsId s id) : ',' ∉ s :=
  not_mem_of_isDecimal_trim h.isDecimal rfl rfl (by decide)

theorem ShowsRanges.forall₂_idSetParts (h : ShowsRanges part ranges) :
    List.Forall₂ IsRange (idSetParts part) ranges := by
  cases h with
  | blank hblank =>
    have hcomma : ',' ∉ part := fun hc => absurd (hblank ',' hc) (by decide)
    rw [idSetParts_of_not_mem hcomma, trim_eq_nil_iff.2 hblank]
    exact .nil
  | single hs => exact idSetParts_of_isRange (.single hs.isDecimal) hs.not_mem_comma
  | between hs ht hle =>
    refine idSetParts_of_isRange (.between hs.isDecimal ht.isDecimal hle) ?_
    rw [List.mem_append, List.mem_cons, not_or, not_or]
    exact ⟨hs.not_mem_comma, by decide, ht.not_mem_comma⟩

theorem forall₂_idSetParts_intercalate {pieces : List (List Char)} {ranges : List (List IdRange)}
    (h : List.Forall₂ ShowsRanges pieces ranges) :
    List.Forall₂ IsRange (idSetParts ([','].intercalate pieces)) ranges.flatten := by
  rw [idSetParts_intercalate]
  induction h with
  | nil => exact .nil
  | cons hpiece _ ih => exact List.rel_append hpiece.forall₂_idSetParts ih

end Parts

/-- A text lists ranges if and only if what it holds between commas, blanks apart, are ranges, and
at least one; these it lists in order. Ranges that are written between commas, with any blanks and
any gaps, are read as they are. -/
theorem parseIdSet_exact :
    (∀ text : String, (∃ ranges, parseIdSet text = .ok ranges) ↔
      ∃ parts, IsParts text.toList parts ∧ parts ≠ [] ∧ ∀ part ∈ parts, ∃ r, IsRange part r) ∧
    (∀ text ranges, parseIdSet text = .ok ranges ↔
      ∃ parts, IsParts text.toList parts ∧ parts ≠ [] ∧ List.Forall₂ IsRange parts ranges) ∧
    (∀ text ranges, parseIdSet text = .ok ranges → ∀ r ∈ ranges, r.first ≤ r.last) ∧
    ∀ pieces ranges, List.Forall₂ ShowsRanges pieces ranges → ranges.flatten ≠ [] →
      parseIdSet (String.ofList ([','].intercalate pieces)) = .ok ranges.flatten := by
  refine ⟨fun text => ?_, fun text ranges => ?_, fun text ranges h r hr => ?_,
    fun pieces ranges hshows hne => ?_⟩
  · simp only [isParts_iff, exists_eq_left, parseIdSet_eq_ok_iff, exists_and_left,
      exists_mapM_eq_ok_iff, readRange_eq_ok_iff]
  · simp only [isParts_iff, exists_eq_left, parseIdSet_eq_ok_iff, mapM_readRange_eq_ok_iff]
  · obtain ⟨-, hread⟩ := parseIdSet_eq_ok_iff.1 h
    obtain ⟨part, -, hpart⟩ := (mem_of_mapM_eq_ok hread).1 hr
    exact (readRange_eq_ok_iff.1 hpart).first_le_last
  · have hranges := forall₂_idSetParts_intercalate hshows
    rw [parseIdSet_eq_ok_iff, String.toList_ofList]
    refine ⟨fun hnil => hne ?_, mapM_readRange_eq_ok_iff.2 hranges⟩
    rw [hnil] at hranges
    exact List.forall₂_nil_left_iff.1 hranges

theorem parseIdSet_exact_with_gap :
    List.Forall₂ ShowsRanges [" 1 : 4\t".toList, [], "18446744073709551615".toList]
      [[⟨1, 4⟩], [], [⟨0xFFFFFFFFFFFFFFFF, 0xFFFFFFFFFFFFFFFF⟩]] ∧
    parseIdSet " 1 : 4\t,,18446744073709551615" =
      .ok [⟨1, 4⟩, ⟨0xFFFFFFFFFFFFFFFF, 0xFFFFFFFFFFFFFFFF⟩] ∧
    (⟨1, 4⟩ : IdRange).first ≤ (⟨1, 4⟩ : IdRange).last ∧
    IsRange ['1'] ⟨1, 1⟩ ∧ (¬ ∃ r, IsRange ['x'] r) ∧
    parseIdSet "1,x" = .error (.badNumber "x" .invalidDigit) := by
  have hspace : ∀ c ∈ [' '], isBlank c = true := List.forall_mem_singleton.2 (by decide)
  have htab : ∀ c ∈ ['\t'], isBlank c = true := List.forall_mem_singleton.2 (by decide)
  have hone : ShowsId " 1 ".toList 1 := ⟨[' '], [' '], hspace, hspace, by decide⟩
  have hfour : ShowsId " 4\t".toList 4 := ⟨[' '], ['\t'], hspace, htab, by decide⟩
  have hmost : ShowsId "18446744073709551615".toList 0xFFFFFFFFFFFFFFFF :=
    ⟨[], [], nofun, nofun, by decide⟩
  have hshows : List.Forall₂ ShowsRanges [" 1 : 4\t".toList, [], "18446744073709551615".toList]
      [[⟨1, 4⟩], [], [⟨0xFFFFFFFFFFFFFFFF, 0xFFFFFFFFFFFFFFFF⟩]] :=
    .cons (.between hone hfour (by decide)) (.cons (.blank nofun) (.cons (.single hmost) .nil))
  have hread := parseIdSet_exact.2.2.2 _ _ hshows (by decide)
  have hfirst : IsRange ['1'] ⟨1, 1⟩ := .single (.plain (isDigits_toDigits 1))
  have hparts : IsParts "1,x".toList [['1'], ['x']] := isParts_iff.2 (by decide)
  have hrejected : parseIdSet "1,x" = .error (.badNumber "x" .invalidDigit) := by decide +kernel
  refine ⟨hshows, hread, parseIdSet_exact.2.2.1 _ _ hread _ List.mem_cons_self, hfirst, ?_,
    hrejected⟩
  intro hx
  obtain ⟨ranges, haccepted⟩ := (parseIdSet_exact.1 "1,x").2 ⟨_, hparts, by decide,
    List.forall_mem_cons.2 ⟨⟨_, hfirst⟩, List.forall_mem_singleton.2 hx⟩⟩
  cases hrejected.symm.trans haccepted

end MailIndex.CommandLine
