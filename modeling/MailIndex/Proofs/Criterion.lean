import MailIndex.Proofs.LiveMessage
import MailIndex.Proofs.Query
import MailIndex.Proofs.Tokens

namespace MailIndex

open MailIndex.Filter MailIndex.Query

def LiveMessage.Found (msg : LiveMessage) (m : MailboxId) (id : MessageId) (f : RowFilter) : Prop :=
  f.Passes (RowKey.flagsRow m) ⟨Qualifier.encode id, msg.flags.encodeBytes⟩ ∨
    ∃ p ∈ msg.postings.toList,
      f.Passes (RowKey.encode ⟨m, p.field, p.term⟩) ⟨Qualifier.encode id, Index.presence⟩

section Terms

variable (m : MailboxId) (f : Field) (t : Term)

theorem length_fieldStart : (RowKey.fieldStart m f).length = 17 := by
  simp [RowKey.fieldStart, m.length_bytes]

theorem ready_termMatch : (termMatch m f t).Ready ↔ t.bytes.length ≤ Criterion.termLimit := by
  have hlimit : Regex.containsLimit = 17 + Criterion.termLimit := rfl
  rw [termMatch, ready_disj]
  simp only [List.forall_mem_cons, ready_rowStarts, true_and,
    ready_rowContains, length_fieldStart, hlimit]
  simp

theorem passes_termMatch_row (row : Bytes) (cell : Cell) :
    (termMatch m f t).Passes row cell ↔
      t.bytes.length ≤ Criterion.termLimit ∧
        RowKey.fieldStart m f <+: row ∧ t.bytes <:+: row.drop (RowKey.fieldStart m f).length := by
  have hlimit : Regex.containsLimit = 17 + Criterion.termLimit := rfl
  have hready : (∀ g ∈ [.rowStarts (RowKey.encode ⟨m, f, t⟩),
      rowContains (RowKey.fieldStart m f) t.bytes], Ready g) ↔ _ :=
    ready_disj.symm.trans (ready_termMatch m f t)
  rw [termMatch, passes_disj, hready]
  refine and_congr_right fun hfits => ?_
  simp only [List.mem_cons, List.not_mem_nil, or_false, exists_eq_or_imp, exists_eq_left,
    passes_rowStarts, passes_rowContains, length_fieldStart, hlimit]
  constructor
  · rintro (⟨rest, rfl⟩ | ⟨-, h⟩)
    · have hrow : RowKey.encode ⟨m, f, t⟩ ++ rest =
          RowKey.fieldStart m f ++ (t.bytes ++ rest) := List.append_assoc _ _ _
      rw [hrow, List.drop_left' (length_fieldStart m f)]
      exact ⟨List.prefix_append _ _, (List.prefix_append _ _).isInfix⟩
    · exact h
  · intro h
    exact .inr ⟨Nat.add_le_add_left hfits 17, h⟩

theorem passes_termMatch (k : RowKey) (cell : Cell) :
    (termMatch m f t).Passes k.encode cell ↔
      t.bytes.length ≤ Criterion.termLimit ∧
        k.mailbox = m ∧ k.field = f ∧ t.bytes <:+: k.term.bytes := by
  rw [passes_termMatch_row, RowKey.fieldStart_prefix_encode_iff, and_assoc]
  refine and_congr_right fun _ => and_congr_right ?_
  rintro rfl
  refine and_congr_right ?_
  rintro rfl
  rw [RowKey.encode, List.drop_left]

variable {m f t} {msg : LiveMessage} {id : MessageId}

theorem found_termMatch (hf : f ≠ .flags) :
    msg.Found m id (termMatch m f t) ↔
      t.bytes.length ≤ Criterion.termLimit ∧ msg.HasTermWith f t := by
  rw [LiveMessage.Found, RowKey.flagsRow]
  simp only [passes_termMatch]
  constructor
  · rintro (⟨-, -, h, -⟩ | ⟨p, hp, hfits, -, rfl, ht⟩)
    · exact absurd h.symm hf
    · exact ⟨hfits, p.term, hp, ht⟩
  · rintro ⟨hfits, s, hs, ht⟩
    exact .inr ⟨⟨f, s⟩, hs, hfits, trivial, rfl, ht⟩

theorem found_rowStarts (hf : f ≠ .flags) :
    msg.Found m id (.rowStarts (RowKey.encode ⟨m, f, .empty⟩)) ↔ ∃ s, msg.HasTerm f s := by
  rw [LiveMessage.Found, RowKey.flagsRow]
  simp only [passes_rowStarts, RowKey.encode_prefix_encode_iff]
  constructor
  · rintro (⟨-, h, -⟩ | ⟨p, hp, -, rfl, -⟩)
    · exact absurd h hf
    · exact ⟨p.term, hp⟩
  · rintro ⟨s, hs⟩
    exact .inr ⟨⟨f, s⟩, hs, trivial, rfl, List.nil_prefix⟩

theorem found_all : msg.Found m id .all := .inl passes_all

theorem ready_flagFilter_parts (x : Flag) (isSet : Bool) :
    ∀ f ∈ [.rowEquals (RowKey.flagsRow m), if isSet then valueContains (Text.encodeString x.token)
      else valueExcludes (Text.encodeString x.token)], Ready f := by
  rw [List.forall_mem_cons, List.forall_mem_singleton]
  refine ⟨ready_rowEquals, ?_⟩
  cases isSet with
  | true => exact ready_valueContains
  | false => exact ready_valueExcludes

theorem ready_flagFilter (x : Flag) (isSet : Bool) : (flagFilter m x isSet).Ready :=
  ready_conj.2 (ready_flagFilter_parts x isSet)

theorem passes_flagFilter (x : Flag) (isSet : Bool) (row : Bytes) (cell : Cell) :
    (flagFilter m x isSet).Passes row cell ↔
      row = RowKey.flagsRow m ∧ (Text.encodeString x.token <:+: cell.value ↔ isSet = true) := by
  rw [flagFilter, passes_conj (ready_flagFilter_parts x isSet)]
  cases isSet with
  | true => simp [passes_rowEquals, passes_valueContains]
  | false => simp [passes_rowEquals, passes_valueExcludes]

theorem found_flagFilter (x : Flag) (isSet : Bool) :
    msg.Found m id (flagFilter m x isSet) ↔
      (Text.encodeString x.token <:+: msg.flags.encodeBytes ↔ isSet = true) := by
  rw [LiveMessage.Found]
  simp only [passes_flagFilter]
  constructor
  · rintro (⟨-, h⟩ | ⟨p, hp, h, -⟩)
    · exact h
    · exact absurd (congrArg RowKey.field (RowKey.encode_inj h)) (msg.field_ne_flags p hp)
  · intro h
    exact .inl ⟨trivial, h⟩

theorem found_dateRows (hmsg : msg.WellDated) (op : DateOp) (r : Resolution) {s : Millis}
    (hs : s.InYears) :
    msg.Found m id (dateRows m r op (r.bucketIndex s.toInt)) ↔
      ∃ u, msg.HasTerm .sentDate (.sentDate u) ∧ u.InYears ∧
        op.Holds (r.bucketIndex u.toInt) (r.bucketIndex s.toInt) := by
  constructor
  · rintro (h | ⟨⟨g, t⟩, hp, h⟩)
    · cases (of_passes_dateRows m r op h).2
    · obtain rfl : g = .sentDate := (of_passes_dateRows m r op h).2
      obtain ⟨u, rfl⟩ := hmsg t hp
      exact ⟨u, hp, (passes_dateRows_iff m r op hs _).1 h⟩
  · rintro ⟨u, hu, h⟩
    exact .inr ⟨⟨.sentDate, .sentDate u⟩, hu, (passes_dateRows_iff m r op hs _).2 h⟩

end Terms

section Unions

variable {m : MailboxId} {msg : LiveMessage} {id : MessageId} {fs : List RowFilter}

theorem found_anyOf (hall : ¬ ∃ f ∈ fs, f.isAll = true)
    (hne : fs.flatMap alternatives ≠ []) (hready : ∀ f ∈ fs, f.Ready) :
    msg.Found m id (.anyOf fs) ↔ ∃ f ∈ fs, msg.Found m id f := by
  have hpasses : ∀ row cell, (anyOf fs).Passes row cell ↔ ∃ f ∈ fs, f.Passes row cell := by
    intro row cell
    rw [passes_anyOf hne, or_iff_right hall, and_iff_right hready]
  simp only [LiveMessage.Found, hpasses]
  constructor
  · rintro (⟨f, hf, h⟩ | ⟨p, hp, f, hf, h⟩)
    · exact ⟨f, hf, .inl h⟩
    · exact ⟨f, hf, .inr ⟨p, hp, h⟩⟩
  · rintro ⟨f, hf, h | ⟨p, hp, h⟩⟩
    · exact .inl ⟨f, hf, h⟩
    · exact .inr ⟨p, hp, f, hf, h⟩

def termMatches (m : MailboxId) (fields : List Field) (ts : List Term) : List RowFilter :=
  fields.flatMap fun f => ts.map (termMatch m f)

variable {fields : List Field} {ts : List Term}

theorem mem_termMatches {g : RowFilter} :
    g ∈ termMatches m fields ts ↔ ∃ f ∈ fields, ∃ t ∈ ts, termMatch m f t = g := by
  simp [termMatches]

theorem not_isAll_termMatches : ¬ ∃ g ∈ termMatches m fields ts, g.isAll = true := by
  rintro ⟨g, hg, hall⟩
  obtain ⟨f, -, t, -, rfl⟩ := mem_termMatches.1 hg
  cases hall

theorem two_le_length_termMatches (hfields : fields ≠ []) (hts : ts ≠ []) :
    2 ≤ ((termMatches m fields ts).flatMap alternatives).length := by
  obtain ⟨f, fields, rfl⟩ := List.exists_cons_of_ne_nil hfields
  obtain ⟨t, ts, rfl⟩ := List.exists_cons_of_ne_nil hts
  rw [termMatches, List.flatMap_cons, List.map_cons, List.cons_append, List.flatMap_cons,
    List.length_append, termMatch, alternatives]
  exact Nat.le_add_right 2 _

theorem alternatives_termMatches_ne_nil (hfields : fields ≠ []) (hts : ts ≠ []) :
    (termMatches m fields ts).flatMap alternatives ≠ [] := by
  intro hnil
  have hlength := two_le_length_termMatches (m := m) hfields hts
  rw [hnil] at hlength
  cases hlength

theorem anyOf_termMatches (hfields : fields ≠ []) (hts : ts ≠ []) :
    anyOf (termMatches m fields ts) = .disj ((termMatches m fields ts).flatMap alternatives) :=
  anyOf_of_two_le not_isAll_termMatches (two_le_length_termMatches hfields hts)

theorem ready_termMatches (hfields : fields ≠ []) :
    (∀ g ∈ termMatches m fields ts, g.Ready) ↔ ∀ t ∈ ts, t.bytes.length ≤ Criterion.termLimit := by
  constructor
  · intro h t ht
    obtain ⟨f, hf⟩ := List.exists_mem_of_ne_nil _ hfields
    exact (ready_termMatch m f t).1 (h _ (mem_termMatches.2 ⟨f, hf, t, ht, rfl⟩))
  · intro h g hg
    obtain ⟨f, -, t, ht, rfl⟩ := mem_termMatches.1 hg
    exact (ready_termMatch m f t).2 (h t ht)

theorem found_anyOf_termMatches (hfields : fields ≠ []) (hts : ts ≠ [])
    (hflags : ∀ f ∈ fields, f ≠ .flags) (hfits : ∀ t ∈ ts, t.bytes.length ≤ Criterion.termLimit) :
    msg.Found m id (.anyOf (termMatches m fields ts)) ↔
      ∃ f ∈ fields, ∃ t ∈ ts, msg.HasTermWith f t := by
  rw [found_anyOf not_isAll_termMatches (alternatives_termMatches_ne_nil hfields hts)
    ((ready_termMatches hfields).2 hfits)]
  constructor
  · rintro ⟨g, hg, h⟩
    obtain ⟨f, hf, t, ht, rfl⟩ := mem_termMatches.1 hg
    exact ⟨f, hf, t, ht, ((found_termMatch (hflags f hf)).1 h).2⟩
  · rintro ⟨f, hf, t, ht, h⟩
    exact ⟨_, mem_termMatches.2 ⟨f, hf, t, ht, rfl⟩,
      (found_termMatch (hflags f hf)).2 ⟨hfits t ht, h⟩⟩

end Unions

namespace Criterion

/-- What a criterion and its filter have in common. -/
structure Compiles (m : MailboxId) (c : Criterion) (f : RowFilter) : Prop where
  alternatives_ne_nil : f.alternatives ≠ []
  isAll_iff : f.isAll = true ↔ c.IsAll
  ready_iff : f.Ready ↔ c.Fits
  found_iff : c.Fits → ∀ (msg : LiveMessage) (id : MessageId), msg.WellDated →
    (msg.Found m id f ↔ c.Meets msg)

variable {m : MailboxId}

theorem ofHeader_ne_flags (name : String) : Field.ofHeader name ≠ .flags := by
  rw [Field.ofHeader]
  iterate 5
    split
    · nofun
  nofun

theorem Compiles.all : Compiles m .all .all where
  alternatives_ne_nil := by simp [alternatives]
  isAll_iff := iff_of_true rfl trivial
  ready_iff := iff_of_true ready_all trivial
  found_iff _ _ _ _ := iff_of_true found_all trivial

theorem Compiles.blank {value : String} (h : terms value = []) (scope : TextScope) :
    Compiles m (.text value scope) .all where
  alternatives_ne_nil := by simp [alternatives]
  isAll_iff := iff_of_true rfl (terms_eq_nil_iff.1 h)
  ready_iff := iff_of_true ready_all (by simp [Fits, h])
  found_iff _ _ _ _ := iff_of_true found_all (.inl (terms_eq_nil_iff.1 h))

theorem Compiles.termMatches {c : Criterion} {fields : List Field} {ts : List Term}
    (hfields : fields ≠ []) (hts : ts ≠ []) (hflags : ∀ f ∈ fields, f ≠ .flags) (hall : ¬ c.IsAll)
    (hfits : c.Fits ↔ ∀ t ∈ ts, t.bytes.length ≤ termLimit)
    (hmeets : ∀ msg, c.Meets msg ↔ ∃ f ∈ fields, ∃ t ∈ ts, msg.HasTermWith f t) :
    Compiles m c (.anyOf (termMatches m fields ts)) where
  alternatives_ne_nil := by
    rw [anyOf_termMatches hfields hts]
    exact alternatives_termMatches_ne_nil hfields hts
  isAll_iff := by
    rw [anyOf_termMatches hfields hts]
    exact iff_of_false (by simp [isAll]) hall
  ready_iff := by
    rw [anyOf_termMatches hfields hts, ready_disj, ready_flatMap_alternatives,
      ready_termMatches hfields, hfits]
  found_iff h msg id _ := by
    rw [found_anyOf_termMatches hfields hts hflags (hfits.1 h), hmeets]

theorem Compiles.text {value : String} (h : terms value ≠ []) (scope : TextScope) :
    Compiles m (.text value scope)
      (.anyOf ((scopeFields scope).flatMap fun f => (terms value).map (termMatch m f))) := by
  obtain ⟨hfields, hflags⟩ : scopeFields scope ≠ [] ∧ ∀ f ∈ scopeFields scope, f ≠ .flags := by
    cases scope <;> decide
  have hblank : ¬ IsBlank value := fun hblank => h (terms_eq_nil_iff.2 hblank)
  exact .termMatches hfields h hflags hblank Iff.rfl fun msg => or_iff_right hblank

theorem Compiles.headerAddress {value : String} (h : terms value ≠ []) (name : String) :
    Compiles m (.headerAddress name value)
      (.anyOf ((terms value).map (termMatch m (.ofHeader name)))) := by
  have hone : (terms value).map (termMatch m (.ofHeader name)) =
      MailIndex.termMatches m [.ofHeader name] (terms value) := (List.append_nil _).symm
  rw [hone]
  refine .termMatches (List.cons_ne_nil _ _) h ?_ id Iff.rfl fun msg => ?_
  · rw [List.forall_mem_singleton]
    exact ofHeader_ne_flags name
  · rw [Meets, or_iff_right fun hblank => h (terms_eq_nil_iff.2 hblank.1)]
    simp

theorem Compiles.headerAddress_blank {value : String} (h : terms value = []) (name : String) :
    Compiles m (.headerAddress name value) (termMatch m (.ofHeader name) .empty) where
  alternatives_ne_nil := List.cons_ne_nil _ _
  isAll_iff := iff_of_false (by simp [termMatch, isAll]) id
  ready_iff := iff_of_true ((ready_termMatch _ _ _).2 (Nat.zero_le _)) (by simp [Fits, h])
  found_iff _ msg id _ := by
    have hfits : Term.empty.bytes.length ≤ termLimit := Nat.zero_le _
    rw [found_termMatch (ofHeader_ne_flags name), and_iff_right hfits]
    constructor
    · rintro ⟨t, ht, -⟩
      exact .inl ⟨terms_eq_nil_iff.1 h, t, ht⟩
    · rintro (⟨-, t, ht⟩ | ⟨t, ht, -⟩)
      · exact ⟨t, ht, List.nil_infix⟩
      · rw [h] at ht
        cases ht

theorem Compiles.headerContains (name value : String) :
    Compiles m (.headerContains name value) (termMatch m (.ofHeader name) (.ofText value)) where
  alternatives_ne_nil := List.cons_ne_nil _ _
  isAll_iff := iff_of_false (by simp [termMatch, isAll]) id
  ready_iff := ready_termMatch _ _ _
  found_iff hfits msg id _ := by
    rw [found_termMatch (ofHeader_ne_flags name)]
    exact and_iff_right hfits

theorem Compiles.headerExists (name : String) :
    Compiles m (.headerExists name) (.rowStarts (RowKey.encode ⟨m, .ofHeader name, .empty⟩)) where
  alternatives_ne_nil := List.cons_ne_nil _ _
  isAll_iff := iff_of_false (by simp [isAll]) id
  ready_iff := iff_of_true ready_rowStarts trivial
  found_iff _ msg id _ := found_rowStarts (ofHeader_ne_flags name)

theorem Compiles.flag (x : Flag) (isSet : Bool) :
    Compiles m (.flag x isSet) (flagFilter m x isSet) where
  alternatives_ne_nil := List.cons_ne_nil _ _
  isAll_iff := iff_of_false (by simp [flagFilter, isAll]) id
  ready_iff := iff_of_true (ready_flagFilter x isSet) trivial
  found_iff _ msg id _ := found_flagFilter x isSet

theorem Compiles.internalDate (op : DateOp) (r : Resolution) {t : Millis} (ht : t.InYears) :
    Compiles m (.internalDate op t r) (dateRows m r op (r.bucketIndex t.toInt)) where
  alternatives_ne_nil := List.cons_ne_nil _ _
  isAll_iff := iff_of_false (by simp [dateRows, isAll]) id
  ready_iff := iff_of_true ready_rowWithin trivial
  found_iff _ msg id hmsg := by
    rw [found_dateRows hmsg op r ht]
    refine exists_congr fun s => and_congr_right fun _ => and_congr_right fun hs => ?_
    exact (r.holds_truncate_iff op hs ht).symm

theorem compiles {c : Criterion} {f : RowFilter} (h : compileOne m c = .ok f) :
    Compiles m c f := by
  cases c with
  | all =>
    cases h
    exact .all
  | text value scope =>
    rw [compileOne] at h
    split at h
    · rename_i hblank
      cases h
      exact .blank hblank scope
    · rename_i hterms
      cases h
      exact .text hterms scope
  | headerContains name value =>
    cases h
    exact .headerContains name value
  | headerExists name =>
    cases h
    exact .headerExists name
  | headerAddress name value =>
    rw [compileOne] at h
    split at h
    · rename_i hblank
      cases h
      exact .headerAddress_blank hblank name
    · rename_i hterms
      cases h
      exact .headerAddress hterms name
  | flag x isSet =>
    cases h
    exact .flag x isSet
  | internalDate op t r =>
    by_cases ht : t.InYears
    · rw [compileOne_internalDate m r op ht] at h
      cases h
      exact .internalDate op r ht
    · rw [compileOne, r.dateRange_of_not_inYears op ht] at h
      cases h
  | size op size => cases h
  | uid ranges => cases h
  | modSeq n => cases h
  | not c => cases h

theorem forall₂_compiles {cs : List Criterion} {fs : List RowFilter}
    (h : cs.mapM (compileOne m) = .ok fs) : List.Forall₂ (Compiles m) cs fs :=
  (forall₂_of_mapM_eq_ok h).imp fun _ _ => compiles

section Unions

variable {cs : List Criterion} {fs : List RowFilter} (h : List.Forall₂ (Compiles m) cs fs)
include h

theorem flatMap_alternatives_ne_nil (hcs : cs ≠ []) : fs.flatMap alternatives ≠ [] := by
  cases h with
  | nil => exact absurd rfl hcs
  | cons hc _ => exact List.append_ne_nil_of_left_ne_nil hc.alternatives_ne_nil _

theorem exists_isAll_iff : (∃ f ∈ fs, f.isAll = true) ↔ ∃ c ∈ cs, c.IsAll := by
  induction h with
  | nil => simp
  | cons hc _ ih => simp only [List.mem_cons, exists_eq_or_imp, hc.isAll_iff, ih]

theorem forall_ready_iff : (∀ f ∈ fs, f.Ready) ↔ ∀ c ∈ cs, c.Fits := by
  induction h with
  | nil => simp
  | cons hc _ ih => simp only [List.forall_mem_cons, hc.ready_iff, ih]

theorem exists_found_iff (hfits : ∀ c ∈ cs, c.Fits) {msg : LiveMessage} (hmsg : msg.WellDated)
    (id : MessageId) : (∃ f ∈ fs, msg.Found m id f) ↔ ∃ c ∈ cs, c.Meets msg := by
  induction h with
  | nil => simp
  | cons hc _ ih =>
    obtain ⟨hfit, hfits⟩ := List.forall_mem_cons.1 hfits
    simp only [List.mem_cons, exists_eq_or_imp, hc.found_iff hfit msg id hmsg, ih hfits]

end Unions

theorem IsAll.meets {c : Criterion} (h : c.IsAll) (msg : LiveMessage) : c.Meets msg := by
  cases c with
  | all => trivial
  | text value scope => exact .inl h
  | _ => cases h

section Compiled

variable {cs : List Criterion} {f : RowFilter}

theorem compile_eq_ok (h : compile m cs = .ok f) :
    ∃ fs, f = .anyOf fs ∧ List.Forall₂ (Compiles m) cs fs := by
  obtain ⟨fs, hfs, rfl⟩ := compile_eq_ok_iff.1 h
  exact ⟨fs, rfl, forall₂_compiles hfs⟩

theorem ready_compile_iff (h : compile m cs = .ok f) : f.Ready ↔ AllFit cs := by
  obtain ⟨fs, rfl, hfs⟩ := compile_eq_ok h
  by_cases hcs : cs = []
  · subst hcs
    cases hfs
    exact iff_of_true ready_all (.inr nofun)
  · rw [ready_anyOf (flatMap_alternatives_ne_nil hfs hcs), exists_isAll_iff hfs,
      forall_ready_iff hfs, AllFit]

theorem found_compile_iff (hcs : cs ≠ []) (h : compile m cs = .ok f) (hfit : AllFit cs)
    {msg : LiveMessage} (hmsg : msg.WellDated) (id : MessageId) :
    msg.Found m id f ↔ ∃ c ∈ cs, c.Meets msg := by
  obtain ⟨fs, rfl, hfs⟩ := compile_eq_ok h
  by_cases hall : ∃ c ∈ cs, c.IsAll
  · rw [anyOf_of_exists_isAll ((exists_isAll_iff hfs).2 hall)]
    obtain ⟨c, hc, hall⟩ := hall
    exact iff_of_true found_all ⟨c, hc, hall.meets msg⟩
  · have hfits : ∀ c ∈ cs, c.Fits := hfit.resolve_left hall
    rw [found_anyOf (mt (exists_isAll_iff hfs).1 hall) (flatMap_alternatives_ne_nil hfs hcs)
      ((forall_ready_iff hfs).2 hfits), exists_found_iff hfs hfits hmsg]

end Compiled

end Criterion

end MailIndex
