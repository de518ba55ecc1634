import MailIndex.Proofs.Subject

/-!
A reply marker in front of a subject. It takes the place of the subject's own marker in the first
round, so the two differ in when the first trailer goes. That is seen only where a tag is left with
nothing behind it but that trailer.
-/

namespace MailIndex

namespace Subject

open Text

variable {s tag : List Char}

def LoneTag (tag s : List Char) : Prop :=
  ']' ∉ tag ∧ ∃ gap trailer, s = '[' :: (tag ++ ']' :: (gap ++ trailer)) ∧
    (∀ c ∈ gap, isBlank c = true) ∧ IsTrailer trailer

inductive Loses (tag : List Char) : List Char → Prop
  | now {s : List Char} : LoneTag tag (dropMarker s) → Loses tag s
  | later {s : List Char} : Loses tag (round s) → Loses tag s

section Commute

theorem dropTrailer_of_isSuffix {a b : List Char} (hs : a <:+ b)
    (h : ∀ front trailer, b = front ++ trailer → ¬ IsTrailer trailer) : dropTrailer a = a := by
  obtain ⟨more, rfl⟩ := hs
  refine dropTrailer_of_not ?_
  rintro front trailer rfl
  exact h (more ++ front) trailer (List.append_assoc ..).symm

theorem dropMarker_of_isPrefix {a b : List Char} (hs : a <+: b)
    (h : ∀ mark rest, b = mark ++ rest → ¬ IsMarker mark) : dropMarker a = a := by
  obtain ⟨more, rfl⟩ := hs
  refine dropMarker_of_not ?_
  rintro mark rest rfl
  exact h mark (rest ++ more) (List.append_assoc ..)

theorem dropTrailer_trimStart_append {a b : List Char} (h : IsTrailer b) :
    dropTrailer (trimStart (a ++ b)) = trimEnd (trimStart a) := by
  rw [trimStart_append h.trimmed.trimStart_eq, dropTrailer_append h]

theorem dropMarker_dropTrailer (s : List Char) :
    dropMarker (dropTrailer s) = dropTrailer (dropMarker s) := by
  rcases dropMarker_cases s with ⟨mark, rest, rfl, hmark, hdrop⟩ | ⟨hnone, hdrop⟩
  · rcases dropTrailer_cases (mark ++ rest) with ⟨a, b, hsplit, hb, hdrop'⟩ | ⟨hnone', hdrop'⟩
    · obtain ⟨between, rfl, rfl⟩ :=
        append_eq_append_trailer (replyMarkers_spec _ hmark).2.2.1 (by decide) hb hsplit
      rw [hdrop, hdrop', trimEnd_append hmark.trimmed.trimEnd_eq, dropMarker_append hmark,
        dropTrailer_trimStart_append hb, trimStart_trimEnd]
    · rw [hdrop', dropTrailer_of_isSuffix (dropMarker_isSuffix _) hnone']
  · rw [hdrop, dropMarker_of_isPrefix (dropTrailer_isPrefix s) hnone]

theorem append_closing_eq_append_trailer {a rest trailer : List Char} (h : IsTrailer trailer)
    (hsplit : '[' :: (tag ++ ']' :: rest) = a ++ trailer) :
    ∃ between, a = '[' :: (tag ++ ']' :: between) ∧ rest = between ++ trailer := by
  have hlast : (('[' :: (tag ++ [']'])).map Char.toLower).getLast? = some ']' := by
    rw [← List.cons_append, List.map_append]
    exact List.getLast?_append
  obtain ⟨between, rfl, rfl⟩ :=
    append_eq_append_trailer (b := rest) hlast (by decide) h (by simpa using hsplit)
  exact ⟨between, by simp, rfl⟩

theorem trimEnd_tagged {rest : List Char} :
    trimEnd ('[' :: (tag ++ ']' :: rest)) = '[' :: (tag ++ ']' :: trimEnd rest) := by
  have hfront : trimEnd ('[' :: tag ++ [']']) = '[' :: tag ++ [']'] :=
    trimEnd_concat_of_not (by decide)
  have hsplit : ∀ rest, '[' :: (tag ++ ']' :: rest) = '[' :: tag ++ [']'] ++ rest := by simp
  rw [hsplit, trimEnd_append hfront, ← hsplit]

theorem dropTag_dropTrailer (h : ∀ tag, ¬ LoneTag tag s) :
    dropTag (dropTrailer s) = dropTrailer (dropTag s) := by
  rcases dropTag_cases s with ⟨tag, rest, rfl, htag, hrest, hdrop⟩ | ⟨hnone, hdrop⟩
  · rcases dropTrailer_cases ('[' :: (tag ++ ']' :: rest)) with
      ⟨a, b, hsplit, hb, hdrop'⟩ | ⟨hnone', hdrop'⟩
    · obtain ⟨between, rfl, rfl⟩ := append_closing_eq_append_trailer hb hsplit
      have hkept : trimStart (trimEnd between) ≠ [] := by
        rw [trimStart_trimEnd]
        exact fun hnil => h tag ⟨htag, between, b, rfl, trim_eq_nil_iff.1 hnil, hb⟩
      rw [hdrop, hdrop', trimEnd_tagged, dropTag_tagged htag, if_neg hkept,
        dropTrailer_trimStart_append hb, trimStart_trimEnd]
    · rw [hdrop', dropTrailer_of_isSuffix (dropTag_isSuffix _) hnone']
  · rw [hdrop]
    refine dropTag_of_not fun tag rest hfront => ?_
    obtain ⟨more, hmore⟩ := dropTrailer_isPrefix s
    rw [hfront] at hmore
    have hblank := trimStart_eq_nil_iff.1 (hnone tag (rest ++ more) (by simp [← hmore]))
    exact trimStart_eq_nil_iff.2 fun c hc => hblank c (List.mem_append_left more hc)

end Commute

section Loses

theorem round_dropTrailer (h : ∀ tag, ¬ LoneTag tag (dropMarker s)) :
    round (dropTrailer s) = dropTrailer (round s) := by
  rw [round, dropMarker_dropTrailer, dropTag_dropTrailer h]
  rfl

theorem rounds_dropTrailer (h : ∀ tag, ¬ Loses tag s) : rounds (dropTrailer s) = rounds s := by
  induction s using rounds.induct with
  | case1 s hshorter ih =>
    rw [← rounds_round (dropTrailer s), round_dropTrailer fun tag ht => h tag (.now ht),
      ih fun tag ht => h tag (.later ht), rounds_round]
  | case2 s hshorter =>
    rw [(round_eq_self_iff.1 (round_eq_self_of_not_shorter hshorter)).2.2]

theorem LoneTag.dropTag_eq (h : LoneTag tag s) : IsTrailer (dropTag s) := by
  obtain ⟨htag, gap, trailer, rfl, hgap, htrailer⟩ := h
  have hrest : trimStart (gap ++ trailer) = trailer := by
    rw [trimStart_append_of_blank hgap, htrailer.trimmed.trimStart_eq]
  rwa [dropTag_tagged htag, hrest, if_neg htrailer.ne_nil]

theorem LoneTag.round_eq_nil (h : LoneTag tag (dropMarker s)) : round s = [] :=
  dropTrailer_append (a := []) h.dropTag_eq

theorem LoneTag.dropTrailer_eq (h : LoneTag tag s) : dropTrailer s = '[' :: (tag ++ [']']) := by
  obtain ⟨-, gap, trailer, rfl, hgap, htrailer⟩ := h
  have hsplit : '[' :: (tag ++ ']' :: (gap ++ trailer)) =
      '[' :: (tag ++ ']' :: gap) ++ trailer := by simp
  rw [hsplit, dropTrailer_append htrailer, trimEnd_tagged, trimEnd_eq_nil_iff.2 hgap]

theorem rounds_nil : rounds [] = [] := rounds_eq_self (by decide)

theorem isBase_tag (htag : ']' ∉ tag) : IsBase ('[' :: (tag ++ [']'])) := by
  refine ⟨⟨trimStart_cons_of_not (by decide), ?_⟩, ?_, ?_, ?_⟩
  · rw [trimEnd_tagged]
    rfl
  · rintro mark rest hsplit hmark
    obtain ⟨c, front, rfl, hc⟩ := hmark.exists_cons
    exact hc (List.cons.inj hsplit).1.symm
  · rintro a trailer hsplit htrailer
    obtain ⟨between, -, hnil⟩ := append_closing_eq_append_trailer htrailer hsplit
    exact htrailer.ne_nil (List.append_eq_nil_iff.1 hnil.symm).2
  · rintro tag' rest hsplit
    exact trimStart_eq_nil_iff.1 (trimStart_eq_nil_of_later htag (List.cons.inj hsplit).2 rfl)

theorem rounds_of_loses (h : Loses tag s) :
    rounds s = [] ∧ rounds (dropTrailer s) = '[' :: (tag ++ [']']) := by
  induction h with
  | @now s h =>
    have htag := isBase_tag h.1
    have hfixed := (isBase_iff htag.trimmed).1 htag
    have hround : round (dropTrailer s) = '[' :: (tag ++ [']']) := by
      obtain ⟨-, hdropTag, hdropTrailer⟩ := round_eq_self_iff.1 hfixed
      rw [round, dropMarker_dropTrailer, h.dropTrailer_eq, hdropTag, hdropTrailer]
    constructor
    · rw [← rounds_round, h.round_eq_nil, rounds_nil]
    · rw [← rounds_round, hround, rounds_eq_self hfixed]
  | @later s h ih =>
    have hlone : ∀ tag', ¬ LoneTag tag' (dropMarker s) := by
      intro tag' h'
      have hnil : rounds (dropTrailer (round s)) = [] := by
        rw [h'.round_eq_nil]
        exact rounds_nil
      rw [hnil] at ih
      cases ih.2
    constructor
    · rw [← rounds_round, ih.1]
    · rw [← rounds_round, round_dropTrailer hlone, ih.2]

end Loses

def BaresTag (tag s : List Char) : Prop :=
  (∃ mark rest, trim s = mark ++ rest ∧ IsMarker mark) ∧ Loses tag (trim s)

theorem dropMarker_trim_append {mark : List Char} (h : IsMarker mark) :
    dropMarker (trim (mark ++ s)) = trim s := by
  obtain ⟨c, front, rfl, -⟩ := h.exists_cons
  have hstart : trimStart (c :: front ++ s) = c :: front ++ s :=
    trimStart_cons_of_not (not_isBlank_of_trimStart_cons h.trimmed.trimStart_eq)
  rw [trim, hstart, trimEnd_append h.trimmed.trimEnd_eq, dropMarker_append h, trimStart_trimEnd]
  rfl

theorem dropTag_of_marker {mark rest : List Char} (h : IsMarker mark) :
    dropTag (mark ++ rest) = mark ++ rest := by
  obtain ⟨c, front, rfl, hc⟩ := h.exists_cons
  refine dropTag_of_not ?_
  rintro tag rest hsplit
  exact absurd (List.cons.inj hsplit).1 hc

theorem baseChars_reply (s : List Char) :
    baseChars ("Re: ".toList ++ s) = rounds (dropTrailer (dropTag (trim s))) := by
  have hmarker : dropMarker (trim ("Re: ".toList ++ s)) = trim s := by
    have hblank : trim (' ' :: s) = trim s :=
      trim_append_of_blank (List.forall_mem_singleton.2 (by decide))
    have hmark : IsMarker "Re:".toList := by decide
    rw [← hblank]
    exact dropMarker_trim_append (s := ' ' :: s) hmark
  rw [baseChars, ← rounds_round, round, hmarker]

theorem baseChars_reply_eq (h : ∀ tag, ¬ BaresTag tag s) :
    baseChars ("Re: ".toList ++ s) = baseChars s := by
  rw [baseChars_reply, baseChars]
  rcases dropMarker_cases (trim s) with ⟨mark, rest, hs, hmark, -⟩ | ⟨-, hdrop⟩
  · rw [hs, dropTag_of_marker hmark, ← hs]
    exact rounds_dropTrailer fun tag ht => h tag ⟨⟨mark, rest, hs, hmark⟩, ht⟩
  · rw [← rounds_round (trim s), round, hdrop]

theorem BaresTag.baseChars_eq (h : BaresTag tag s) :
    baseChars s = [] ∧ baseChars ("Re: ".toList ++ s) = '[' :: (tag ++ [']']) := by
  obtain ⟨⟨mark, rest, hs, hmark⟩, hloses⟩ := h
  refine ⟨(rounds_of_loses hloses).1, ?_⟩
  rw [baseChars_reply, hs, dropTag_of_marker hmark, ← hs]
  exact (rounds_of_loses hloses).2

end Subject

open Subject

/-- One more reply marker changes the base subject just where a round loses a tag: nothing is left
of the subject then, and of the reply the tag. -/
theorem baseSubject_reply (s : String) :
    (¬ ∃ tag, BaresTag tag s.toList) ∧ baseSubject ("Re: " ++ s) = baseSubject s ∨
      ∃ tag, BaresTag tag s.toList ∧ baseSubject s = "" ∧
        baseSubject ("Re: " ++ s) = String.ofList ('[' :: (tag ++ [']'])) := by
  simp only [baseSubject, String.toList_append]
  by_cases h : ∃ tag, BaresTag tag s.toList
  · obtain ⟨tag, ht⟩ := h
    refine .inr ⟨tag, ht, ?_, ?_⟩
    · rw [ht.baseChars_eq.1]
    · rw [ht.baseChars_eq.2]
  · refine .inl ⟨h, ?_⟩
    rw [baseChars_reply_eq fun tag ht => h ⟨tag, ht⟩]

theorem baseSubject_reply_ne :
    baseSubject ("Re: " ++ "Re: [list] (fwd)") ≠ baseSubject "Re: [list] (fwd)" := by
  decide +kernel

end MailIndex
