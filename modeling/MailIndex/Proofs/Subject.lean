import MailIndex.Proofs.List
import MailIndex.Proofs.Text.Trim
import MailIndex.Subject

namespace MailIndex.Subject

open Text

def IsMarker (a : List Char) : Prop := a.map Char.toLower ∈ replyMarkers

def IsTrailer (b : List Char) : Prop := b.map Char.toLower = forwardTrailer

instance (a : List Char) : Decidable (IsMarker a) :=
  inferInstanceAs (Decidable (a.map Char.toLower ∈ replyMarkers))

instance (b : List Char) : Decidable (IsTrailer b) :=
  inferInstanceAs (Decidable (b.map Char.toLower = forwardTrailer))

variable {a b s t tag rest : List Char}

section Marks

theorem replyMarkers_spec : ∀ m ∈ replyMarkers,
    trimStart m = m ∧ trimEnd m = m ∧ m.getLast? = some ':' ∧ m.head? ≠ some '[' ∧ m.head? ≠ none ∧
      ∀ m' ∈ replyMarkers, m <+: m' → m = m' := by
  decide

theorem IsMarker.trimmed (h : IsMarker a) : Trimmed a :=
  .of_map_toLower ⟨(replyMarkers_spec _ h).1, (replyMarkers_spec _ h).2.1⟩

theorem IsMarker.exists_cons (h : IsMarker a) : ∃ c front, a = c :: front ∧ c ≠ '[' := by
  obtain ⟨-, -, -, hbracket, hnone, -⟩ := replyMarkers_spec _ h
  cases a with
  | nil => exact absurd rfl hnone
  | cons c front =>
    refine ⟨c, front, rfl, ?_⟩
    rintro rfl
    exact hbracket rfl

theorem IsMarker.ne_nil (h : IsMarker a) : a ≠ [] := by
  obtain ⟨c, front, rfl, -⟩ := h.exists_cons
  exact List.cons_ne_nil c front

theorem IsTrailer.trimmed (h : IsTrailer b) : Trimmed b := by
  refine .of_map_toLower ?_
  rw [h]
  exact ⟨by decide, by decide⟩

theorem IsTrailer.ne_nil (h : IsTrailer b) : b ≠ [] := by
  rintro rfl
  cases h

theorem append_eq_append_trailer {front trailer : List Char} {c : Char}
    (hlast : (front.map Char.toLower).getLast? = some c) (hc : c ∉ forwardTrailer)
    (htrailer : IsTrailer trailer) (h : front ++ b = a ++ trailer) :
    ∃ between, a = front ++ between ∧ b = between ++ trailer := by
  rcases List.append_eq_append_iff.1 h with ⟨between, ha, hb⟩ | ⟨shared, hfront, ht⟩
  · exact ⟨between, ha, hb⟩
  · cases shared with
    | nil => exact ⟨[], by simpa using hfront.symm, by simpa using ht.symm⟩
    | cons d shared =>
      rw [hfront, List.map_append, List.getLast?_append_of_ne_nil _ (by simp)] at hlast
      have hmem : c ∈ trailer.map Char.toLower := by
        rw [ht, List.map_append]
        exact List.mem_append_left _ (List.mem_of_getLast? hlast)
      rw [htrailer] at hmem
      exact absurd hmem hc

end Marks

theorem startsWith_iff {mark : List Char} :
    startsWith mark s = true ↔ ∃ a b, s = a ++ b ∧ a.map Char.toLower = mark := by
  rw [startsWith, List.isPrefixOf_iff_prefix]
  constructor
  · rintro ⟨rest, h⟩
    obtain ⟨a, b, hs, ha, -⟩ := List.map_eq_append_iff.1 h.symm
    exact ⟨a, b, hs, ha⟩
  · rintro ⟨a, b, rfl, rfl⟩
    rw [List.map_append]
    exact List.prefix_append _ _

section Steps

theorem dropMarker_append (h : IsMarker a) : dropMarker (a ++ b) = trimStart b := by
  have hstarts : ∀ m ∈ replyMarkers, startsWith m (a ++ b) = true → m = a.map Char.toLower := by
    intro m hm hstart
    rw [startsWith, List.isPrefixOf_iff_prefix, List.map_append] at hstart
    rcases List.prefix_or_prefix_of_prefix hstart (List.prefix_append _ _) with hle | hle
    · exact (replyMarkers_spec m hm).2.2.2.2.2 _ h hle
    · exact ((replyMarkers_spec _ h).2.2.2.2.2 m hm hle).symm
  have hself : startsWith (a.map Char.toLower) (a ++ b) = true :=
    startsWith_iff.2 ⟨a, b, rfl, rfl⟩
  rw [dropMarker]
  cases hfind : replyMarkers.find? fun m => startsWith m (a ++ b) with
  | none => exact absurd hself (List.find?_eq_none.1 hfind _ h)
  | some m =>
    have hstart := List.find?_some hfind
    obtain rfl := hstarts m (List.mem_of_find?_eq_some hfind) hstart
    simp

theorem dropMarker_ne_self (h : IsMarker a) : dropMarker (a ++ b) ≠ a ++ b := by
  intro hsame
  have hshort := (trimStart_isSuffix b).length_le
  have hpos := List.length_pos_of_ne_nil h.ne_nil
  rw [← dropMarker_append h, hsame, List.length_append] at hshort
  omega

theorem dropMarker_of_not (h : ∀ a b, s = a ++ b → ¬ IsMarker a) : dropMarker s = s := by
  have hnone : (replyMarkers.find? fun m => startsWith m s) = none := by
    rw [List.find?_eq_none]
    intro m hm hstart
    obtain ⟨a, b, hs, rfl⟩ := startsWith_iff.1 hstart
    exact h a b hs hm
  rw [dropMarker, hnone]

theorem dropMarker_cases (s : List Char) :
    (∃ a b, s = a ++ b ∧ IsMarker a ∧ dropMarker s = trimStart b) ∨
      (∀ a b, s = a ++ b → ¬ IsMarker a) ∧ dropMarker s = s := by
  by_cases h : ∃ a b, s = a ++ b ∧ IsMarker a
  · obtain ⟨a, b, rfl, ha⟩ := h
    exact .inl ⟨a, b, rfl, ha, dropMarker_append ha⟩
  · have hnone : ∀ a b, s = a ++ b → ¬ IsMarker a := fun a b hs ha => h ⟨a, b, hs, ha⟩
    exact .inr ⟨hnone, dropMarker_of_not hnone⟩

theorem ne_closing_of_not_mem (htag : ']' ∉ tag) : ∀ c ∈ '[' :: tag, decide (c ≠ ']') = true := by
  intro c hc
  rw [decide_eq_true_eq]
  rintro rfl
  rcases List.mem_cons.1 hc with hc | hc
  · cases hc
  · exact htag hc

theorem dropTag_tagged (htag : ']' ∉ tag) :
    dropTag ('[' :: (tag ++ ']' :: rest)) =
      if trimStart rest = [] then '[' :: (tag ++ ']' :: rest) else trimStart rest := by
  have hdrop : (('[' :: (tag ++ ']' :: rest)).dropWhile (· ≠ ']')).drop 1 = rest := by
    rw [← List.cons_append, List.dropWhile_append_of_pos (ne_closing_of_not_mem htag)]
    simp
  rw [dropTag, hdrop]
  split <;> simp_all

theorem dropTag_of_not
    (h : ∀ tag rest, s = '[' :: (tag ++ ']' :: rest) → trimStart rest = []) : dropTag s = s := by
  cases s with
  | nil => rfl
  | cons c s =>
    by_cases hc : c = '['
    · subst hc
      by_cases hs : ']' ∈ s
      · obtain ⟨tag, rest, rfl, htag⟩ := List.eq_append_cons_of_mem hs
        rw [dropTag_tagged htag, if_pos (h tag rest rfl)]
      · have hnone : ('[' :: s).dropWhile (· ≠ ']') = [] := by
          rw [List.dropWhile_eq_nil_iff]
          rintro x hx
          rw [decide_eq_true_eq]
          rintro rfl
          simp [hs] at hx
        rw [dropTag, hnone]
        rfl
    · rw [dropTag]
      rintro tail ⟨⟩
      exact hc rfl

/-- A tag ends at its first closing bracket, but what follows a later one follows that one too. -/
theorem trimStart_eq_nil_of_later {tag' rest' : List Char} (htag : ']' ∉ tag)
    (h : tag ++ ']' :: rest = tag' ++ ']' :: rest') (hrest : trimStart rest = []) :
    trimStart rest' = [] := by
  obtain ⟨between, -, hbetween⟩ := (append_eq_append_cons_iff htag).1 h
  rw [trimStart_eq_nil_iff] at hrest ⊢
  intro c hc
  cases between with
  | nil =>
    obtain ⟨-, rfl⟩ := List.cons.inj hbetween
    exact hrest c hc
  | cons d between =>
    obtain ⟨-, rfl⟩ := List.cons.inj hbetween
    exact hrest c (by simp [hc])

theorem dropTag_cases (s : List Char) :
    (∃ tag rest, s = '[' :: (tag ++ ']' :: rest) ∧ ']' ∉ tag ∧ trimStart rest ≠ [] ∧
        dropTag s = trimStart rest) ∨
      (∀ tag rest, s = '[' :: (tag ++ ']' :: rest) → trimStart rest = []) ∧ dropTag s = s := by
  by_cases h : ∃ tag rest, s = '[' :: (tag ++ ']' :: rest) ∧ ']' ∉ tag ∧ trimStart rest ≠ []
  · obtain ⟨tag, rest, rfl, htag, hrest⟩ := h
    exact .inl ⟨tag, rest, rfl, htag, hrest, (dropTag_tagged htag).trans (if_neg hrest)⟩
  · have hnone : ∀ tag rest, s = '[' :: (tag ++ ']' :: rest) → trimStart rest = [] := by
      rintro tag' rest' rfl
      have hmem : ']' ∈ tag' ++ ']' :: rest' := by simp
      obtain ⟨tag, rest, hfirst, htag⟩ := List.eq_append_cons_of_mem hmem
      by_contra hne
      refine h ⟨tag, rest, by rw [hfirst], htag, fun hrest => hne ?_⟩
      exact trimStart_eq_nil_of_later htag hfirst.symm hrest
    exact .inr ⟨hnone, dropTag_of_not hnone⟩

theorem trimStart_eq_nil_of_dropTag_eq_self (h : dropTag s = s) :
    ∀ tag rest, s = '[' :: (tag ++ ']' :: rest) → trimStart rest = [] := by
  rcases dropTag_cases s with ⟨tag, rest, rfl, -, -, hdrop⟩ | ⟨hnone, -⟩
  · have hshort := (trimStart_isSuffix rest).length_le
    rw [← hdrop, h, List.length_cons, List.length_append, List.length_cons] at hshort
    omega
  · exact hnone

theorem endsWithTrailer_iff :
    startsWith forwardTrailer.reverse s.reverse = true ↔ ∃ a b, s = a ++ b ∧ IsTrailer b := by
  rw [startsWith_iff]
  constructor
  · rintro ⟨b, a, hs, hb⟩
    refine ⟨a.reverse, b.reverse, ?_, ?_⟩
    · rw [← List.reverse_append, ← hs, List.reverse_reverse]
    · rw [IsTrailer, List.map_reverse, hb, List.reverse_reverse]
  · rintro ⟨a, b, rfl, hb⟩
    exact ⟨b.reverse, a.reverse, List.reverse_append, by rw [List.map_reverse, hb]⟩

theorem dropTrailer_append (h : IsTrailer b) : dropTrailer (a ++ b) = trimEnd a := by
  have hlength : b.length = 5 := by
    simpa [forwardTrailer] using congrArg List.length h
  rw [dropTrailer, if_pos (endsWithTrailer_iff.2 ⟨a, b, rfl, h⟩), List.length_append, hlength,
    Nat.add_sub_cancel, List.take_left]

theorem dropTrailer_ne_self (h : IsTrailer b) : dropTrailer (a ++ b) ≠ a ++ b := by
  intro hsame
  have hshort := (trimEnd_isPrefix a).length_le
  have hpos := List.length_pos_of_ne_nil h.ne_nil
  rw [← dropTrailer_append h, hsame, List.length_append] at hshort
  omega

theorem dropTrailer_of_not (h : ∀ a b, s = a ++ b → ¬ IsTrailer b) : dropTrailer s = s := by
  refine if_neg fun hends => ?_
  obtain ⟨a, b, hs, hb⟩ := endsWithTrailer_iff.1 hends
  exact h a b hs hb

theorem dropTrailer_cases (s : List Char) :
    (∃ a b, s = a ++ b ∧ IsTrailer b ∧ dropTrailer s = trimEnd a) ∨
      (∀ a b, s = a ++ b → ¬ IsTrailer b) ∧ dropTrailer s = s := by
  by_cases h : ∃ a b, s = a ++ b ∧ IsTrailer b
  · obtain ⟨a, b, rfl, hb⟩ := h
    exact .inl ⟨a, b, rfl, hb, dropTrailer_append hb⟩
  · have hnone : ∀ a b, s = a ++ b → ¬ IsTrailer b := fun a b hs hb => h ⟨a, b, hs, hb⟩
    exact .inr ⟨hnone, dropTrailer_of_not hnone⟩

theorem dropMarker_isSuffix (s : List Char) : dropMarker s <:+ s := by
  rcases dropMarker_cases s with ⟨a, b, rfl, -, hdrop⟩ | ⟨-, hdrop⟩
  · rw [hdrop]
    exact (trimStart_isSuffix b).trans (List.suffix_append a b)
  · rw [hdrop]

theorem dropTag_isSuffix (s : List Char) : dropTag s <:+ s := by
  rcases dropTag_cases s with ⟨tag, rest, rfl, -, -, hdrop⟩ | ⟨-, hdrop⟩
  · rw [hdrop]
    exact (trimStart_isSuffix rest).trans ⟨'[' :: (tag ++ [']']), by simp⟩
  · rw [hdrop]

theorem dropTrailer_isPrefix (s : List Char) : dropTrailer s <+: s := by
  rcases dropTrailer_cases s with ⟨a, b, rfl, -, hdrop⟩ | ⟨-, hdrop⟩
  · rw [hdrop]
    exact (trimEnd_isPrefix a).trans (List.prefix_append a b)
  · rw [hdrop]

theorem round_isInfix (s : List Char) : round s <:+: s :=
  (dropTrailer_isPrefix _).isInfix.trans
    ((dropTag_isSuffix _).trans (dropMarker_isSuffix s)).isInfix

theorem round_eq_self_iff :
    round s = s ↔ dropMarker s = s ∧ dropTag s = s ∧ dropTrailer s = s := by
  constructor
  · intro h
    have hmarker := dropMarker_isSuffix s
    have htag := dropTag_isSuffix (dropMarker s)
    have htrailer := dropTrailer_isPrefix (dropTag (dropMarker s))
    have hround : (dropTrailer (dropTag (dropMarker s))).length = s.length :=
      congrArg List.length h
    have hmarker' : dropMarker s = s := hmarker.eq_of_length (by
      have := hmarker.length_le
      have := htag.length_le
      have := htrailer.length_le
      omega)
    rw [hmarker'] at htag htrailer hround
    have htag' : dropTag s = s := htag.eq_of_length (by
      have := htag.length_le
      have := htrailer.length_le
      omega)
    rw [htag'] at hround htrailer
    exact ⟨hmarker', htag', htrailer.eq_of_length hround⟩
  · rintro ⟨hmarker, htag, htrailer⟩
    rw [round, hmarker, htag, htrailer]

theorem trimmed_dropMarker (h : Trimmed s) : Trimmed (dropMarker s) := by
  refine ⟨?_, trimEnd_of_isSuffix (dropMarker_isSuffix s) h.trimEnd_eq⟩
  rcases dropMarker_cases s with ⟨a, b, rfl, -, hdrop⟩ | ⟨-, hdrop⟩
  · rw [hdrop, trimStart_trimStart]
  · rw [hdrop, h.trimStart_eq]

theorem trimmed_dropTag (h : Trimmed s) : Trimmed (dropTag s) := by
  refine ⟨?_, trimEnd_of_isSuffix (dropTag_isSuffix s) h.trimEnd_eq⟩
  rcases dropTag_cases s with ⟨tag, rest, rfl, -, -, hdrop⟩ | ⟨-, hdrop⟩
  · rw [hdrop, trimStart_trimStart]
  · rw [hdrop, h.trimStart_eq]

theorem trimmed_dropTrailer (h : Trimmed s) : Trimmed (dropTrailer s) := by
  refine ⟨trimStart_of_isPrefix (dropTrailer_isPrefix s) h.trimStart_eq, ?_⟩
  rcases dropTrailer_cases s with ⟨a, b, rfl, -, hdrop⟩ | ⟨-, hdrop⟩
  · rw [hdrop, trimEnd_trimEnd]
  · rw [hdrop, h.trimEnd_eq]

theorem trimmed_round (h : Trimmed s) : Trimmed (round s) :=
  trimmed_dropTrailer (trimmed_dropTag (trimmed_dropMarker h))

end Steps

section Rounds

theorem round_eq_self_of_not_shorter (h : ¬ (round s).length < s.length) : round s = s :=
  (round_isInfix s).eq_of_length (by
    have := (round_isInfix s).length_le
    omega)

theorem rounds_eq_self (h : round s = s) : rounds s = s := by
  rw [rounds, h, if_neg (Nat.lt_irrefl _)]

theorem rounds_round (s : List Char) : rounds (round s) = rounds s := by
  by_cases h : (round s).length < s.length
  · rw [rounds.eq_def s, if_pos h]
  · rw [round_eq_self_of_not_shorter h]

theorem rounds_induction {motive : List Char → Prop} (step : ∀ s, motive s → motive (round s))
    (h : motive s) : motive (rounds s) := by
  induction s using rounds.induct with
  | case1 s hshorter ih =>
    rw [← rounds_round]
    exact ih (step s h)
  | case2 s hshorter =>
    rw [rounds_eq_self (round_eq_self_of_not_shorter hshorter)]
    exact h

theorem round_rounds (s : List Char) : round (rounds s) = rounds s := by
  induction s using rounds.induct with
  | case1 s hshorter ih => rwa [rounds_round] at ih
  | case2 s hshorter =>
    have hround := round_eq_self_of_not_shorter hshorter
    rw [rounds_eq_self hround, hround]

end Rounds

structure IsBase (s : List Char) : Prop where
  trimmed : Trimmed s
  not_marker : ∀ a b, s = a ++ b → ¬ IsMarker a
  not_trailer : ∀ a b, s = a ++ b → ¬ IsTrailer b
  not_tag : ∀ tag rest, s = '[' :: (tag ++ ']' :: rest) → ∀ c ∈ rest, isBlank c = true

theorem isBase_iff (h : Trimmed s) : IsBase s ↔ round s = s := by
  rw [round_eq_self_iff]
  constructor
  · intro hbase
    exact ⟨dropMarker_of_not hbase.not_marker,
      dropTag_of_not fun tag rest hs => trimStart_eq_nil_iff.2 (hbase.not_tag tag rest hs),
      dropTrailer_of_not hbase.not_trailer⟩
  · rintro ⟨hmarker, htag, htrailer⟩
    refine ⟨h, ?_, ?_, fun tag rest hs => ?_⟩
    · rintro a b rfl ha
      exact dropMarker_ne_self ha hmarker
    · rintro a b rfl hb
      exact dropTrailer_ne_self hb htrailer
    · exact trimStart_eq_nil_iff.1 (trimStart_eq_nil_of_dropTag_eq_self htag tag rest hs)

end MailIndex.Subject
