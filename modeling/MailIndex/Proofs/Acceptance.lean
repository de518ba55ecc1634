import MailIndex.Proofs.Criterion
import MailIndex.Proofs.List
import MailIndex.Proofs.MailboxScan

namespace MailIndex

open MailIndex.Regex (PatternPart)

namespace Filter

mutual

def patterns {ρ : Type} : Filter ρ → List ρ
  | .rowMatches pattern => [pattern]
  | .conj parts => patternsOfAll parts
  | .disj parts => patternsOfAll parts
  | _ => []

def patternsOfAll {ρ : Type} : List (Filter ρ) → List ρ
  | [] => []
  | part :: parts => patterns part ++ patternsOfAll parts

end

theorem mem_patternsOfAll {ρ : Type} {fs : List (Filter ρ)} {p : ρ} :
    p ∈ patternsOfAll fs ↔ ∃ f ∈ fs, p ∈ f.patterns := by
  induction fs with
  | nil => simp [patternsOfAll]
  | cons f fs ih => simp [patternsOfAll, ih]

theorem exists_mapPatternsM_eq_ok {ρ σ ε : Type} {read : ρ → Except ε σ} (f : Filter ρ)
    (h : ∀ p ∈ f.patterns, ∃ r, read p = .ok r) : ∃ g, f.mapPatternsM read = .ok g := by
  have hparts : ∀ parts, (∀ g ∈ parts, ∃ m, mapPatternsM read g = .ok m) →
      ∃ results, mapAllPatternsM read parts = .ok results :=
    fun _ => exists_mapAllPatternsM_eq_ok_iff.2
  cases f with
  | rowMatches pattern =>
    obtain ⟨r, hr⟩ := h pattern (List.mem_singleton_self pattern)
    rw [mapPatternsM, hr]
    exact ⟨.rowMatches r, rfl⟩
  | conj parts =>
    obtain ⟨results, hresults⟩ := hparts parts fun g hg =>
      exists_mapPatternsM_eq_ok g fun p hp => h p (mem_patternsOfAll.2 ⟨g, hg, hp⟩)
    rw [mapPatternsM, hresults]
    exact ⟨.conj results, rfl⟩
  | disj parts =>
    obtain ⟨results, hresults⟩ := hparts parts fun g hg =>
      exists_mapPatternsM_eq_ok g fun p hp => h p (mem_patternsOfAll.2 ⟨g, hg, hp⟩)
    rw [mapPatternsM, hresults]
    exact ⟨.disj results, rfl⟩
  | _ => exact ⟨_, rfl⟩
termination_by sizeOf f

theorem mem_patterns_anyOf {ρ : Type} {fs : List (Filter ρ)} {p : ρ}
    (h : p ∈ (anyOf fs).patterns) : ∃ f ∈ fs, p ∈ f.patterns := by
  have hparts : ∀ {g : Filter ρ}, g ∈ fs.flatMap alternatives → p ∈ g.patterns →
      ∃ f ∈ fs, p ∈ f.patterns := by
    intro g hg hp
    obtain ⟨f, hf, hgf⟩ := List.mem_flatMap.1 hg
    refine ⟨f, hf, ?_⟩
    cases f with
    | disj parts => exact mem_patternsOfAll.2 ⟨g, hgf, hp⟩
    | _ => exact List.mem_singleton.1 hgf ▸ hp
  rw [anyOf] at h
  split at h
  · cases h
  · split at h
    · cases h
    · rename_i g hone
      exact hparts (hone ▸ List.mem_singleton_self g) h
    · obtain ⟨g, hg, hp⟩ := mem_patternsOfAll.1 h
      exact hparts hg hp

/-- Whether all patterns can be read that are an anchor and any number of escaped octets and any
texts. -/
def ReadsEscapes {ε σ : Type} (read : String → Except ε σ) : Prop :=
  ∀ parts, ∃ r, read (PatternPart.pattern parts) = .ok r

def readPatternOfAnyRoom (pattern : String) : Except FilterError Regex :=
  match Regex.ofPatternOfAnyRoom? pattern with
  | some r => .ok r
  | none => .error (.badPattern pattern)

theorem readsEscapes_readPatternOfAnyRoom : ReadsEscapes readPatternOfAnyRoom := by
  intro parts
  obtain ⟨r, hr⟩ := Regex.exists_ofPatternOfAnyRoom?_pattern parts
  exact ⟨r, by rw [readPatternOfAnyRoom, hr]⟩

theorem readPatternOfAnyRoom_of_readPattern {pattern : String} {r : Regex}
    (h : readPattern pattern = .ok r) : readPatternOfAnyRoom pattern = .ok r := by
  rw [readPattern] at h
  cases hr : Regex.ofPattern? pattern with
  | none =>
    rw [hr] at h
    cases h
  | some x =>
    rw [hr] at h
    cases h
    rw [readPatternOfAnyRoom, Regex.ofPatternOfAnyRoom?_of_ofPattern? hr]

end Filter

namespace Criterion

def IsUnsupported : Criterion → Prop
  | .size _ _ | .uid _ | .modSeq _ | .not _ => True
  | _ => False

def IsOutOfYears : Criterion → Prop
  | .internalDate _ t _ => ¬ t.InYears
  | _ => False

def IsRejected (c : Criterion) : Prop := c.IsUnsupported ∨ c.IsOutOfYears

end Criterion

namespace Query

open MailIndex.Filter

def MadeOfEscapes (f : RowFilter) : Prop :=
  ∀ p ∈ f.patterns, ∃ parts, p = PatternPart.pattern parts

variable (m : MailboxId)

theorem madeOfEscapes_termMatch (f : Field) (t : Term) : MadeOfEscapes (termMatch m f t) := by
  intro p hp
  obtain ⟨g, hg, hp⟩ := mem_patternsOfAll.1 hp
  rcases List.mem_cons.1 hg with rfl | hg
  · cases hp
  · rw [List.mem_singleton.1 hg] at hp
    refine ⟨Regex.containsPattern (RowKey.fieldStart m f) t.bytes, ?_⟩
    rw [Regex.pattern_containsPattern]
    exact List.mem_singleton.1 hp

theorem madeOfEscapes_anyOf {fs : List RowFilter} (h : ∀ f ∈ fs, MadeOfEscapes f) :
    MadeOfEscapes (anyOf fs) := by
  intro p hp
  obtain ⟨f, hf, hp⟩ := mem_patterns_anyOf hp
  exact h f hf p hp

theorem madeOfEscapes_of_patterns_eq_nil {f : RowFilter} (h : f.patterns = []) :
    MadeOfEscapes f := by
  intro p hp
  rw [h] at hp
  cases hp

theorem madeOfEscapes_compileOne {c : Criterion} {f : RowFilter} (h : compileOne m c = .ok f) :
    MadeOfEscapes f := by
  cases c with
  | all =>
    cases h
    exact madeOfEscapes_of_patterns_eq_nil rfl
  | text value scope =>
    rw [compileOne] at h
    split at h
    · cases h
      exact madeOfEscapes_of_patterns_eq_nil rfl
    · cases h
      refine madeOfEscapes_anyOf fun g hg => ?_
      obtain ⟨f, -, hg⟩ := List.mem_flatMap.1 hg
      obtain ⟨t, -, rfl⟩ := List.mem_map.1 hg
      exact madeOfEscapes_termMatch m f t
  | headerContains name value =>
    cases h
    exact madeOfEscapes_termMatch m (.ofHeader name) (.ofText value)
  | headerExists name =>
    cases h
    exact madeOfEscapes_of_patterns_eq_nil rfl
  | headerAddress name value =>
    rw [compileOne] at h
    split at h
    · cases h
      exact madeOfEscapes_termMatch m (.ofHeader name) .empty
    · cases h
      refine madeOfEscapes_anyOf fun g hg => ?_
      obtain ⟨t, -, rfl⟩ := List.mem_map.1 hg
      exact madeOfEscapes_termMatch m (.ofHeader name) t
  | flag x isSet =>
    cases h
    cases isSet <;> exact madeOfEscapes_of_patterns_eq_nil rfl
  | internalDate op t r =>
    rw [compileOne] at h
    split at h
    · cases h
    · cases h
      exact madeOfEscapes_of_patterns_eq_nil rfl
  | size largerThan smallerThan => cases h
  | uid ranges => cases h
  | modSeq n => cases h
  | not c => cases h

variable {m}

theorem compileOne_of_isUnsupported {c : Criterion} (h : c.IsUnsupported) :
    compileOne m c = .error (.unsupported c.kind) := by
  cases c with
  | size largerThan smallerThan => rfl
  | uid ranges => rfl
  | modSeq n => rfl
  | not c => rfl
  | _ => cases h

theorem compileOne_of_isOutOfYears {c : Criterion} (h : c.IsOutOfYears) :
    ∃ cause, compileOne m c = .error (.date cause) := by
  cases c with
  | internalDate op t r =>
    rw [compileOne, r.dateRange_of_not_inYears op h]
    exact ⟨_, rfl⟩
  | _ => cases h

theorem exists_compileOne_eq_error {c : Criterion} (h : c.IsRejected) :
    ∃ cause, compileOne m c = .error cause := by
  rcases h with h | h
  · exact ⟨_, compileOne_of_isUnsupported h⟩
  · obtain ⟨cause, hcause⟩ := compileOne_of_isOutOfYears h
    exact ⟨_, hcause⟩

theorem exists_compileOne_eq_ok {c : Criterion} (h : ¬ c.IsRejected) :
    ∃ f, compileOne m c = .ok f := by
  cases c with
  | text value scope =>
    rw [compileOne]
    split <;> exact ⟨_, rfl⟩
  | headerAddress name value =>
    rw [compileOne]
    split <;> exact ⟨_, rfl⟩
  | internalDate op t r =>
    have ht : t.InYears := not_not.1 fun ht => h (.inr ht)
    exact ⟨_, compileOne_internalDate m r op ht⟩
  | size largerThan smallerThan => exact absurd (.inl trivial) h
  | uid ranges => exact absurd (.inl trivial) h
  | modSeq n => exact absurd (.inl trivial) h
  | not c => exact absurd (.inl trivial) h
  | _ => exact ⟨_, rfl⟩

section Lists

variable {cs : List Criterion}

theorem exists_compile_eq_ok_iff :
    (∃ f, compile m cs = .ok f) ↔ ∀ c ∈ cs, ¬ c.IsRejected := by
  have hone : ∀ c, (∃ f, compileOne m c = .ok f) ↔ ¬ c.IsRejected := by
    refine fun c => ⟨?_, exists_compileOne_eq_ok⟩
    rintro ⟨f, hf⟩ hrejected
    obtain ⟨cause, hcause⟩ := exists_compileOne_eq_error (m := m) hrejected
    cases hcause.symm.trans hf
  simp only [← hone, ← exists_mapM_eq_ok_iff, compile_eq_ok_iff]
  rw [exists_comm]
  simp only [exists_and_left, exists_eq', and_true]

theorem exists_compile_eq_error_iff :
    (∃ cause, compile m cs = .error cause) ↔ ∃ c ∈ cs, c.IsRejected := by
  have hfails := not_congr (@exists_compile_eq_ok_iff m cs)
  simp only [not_forall, not_not, exists_prop] at hfails
  rw [← hfails]
  cases compile m cs <;> simp

theorem compile_append_cons_eq_error {before after : List Criterion} {c : Criterion}
    {cause : QueryError} (hbefore : ∀ b ∈ before, ¬ b.IsRejected)
    (hc : compileOne m c = .error cause) : compile m (before ++ c :: after) = .error cause := by
  rw [compile, mapM_append_cons_eq_error (fun b hb => exists_compileOne_eq_ok (hbefore b hb)) hc]
  rfl

theorem madeOfEscapes_compile {f : RowFilter} (h : compile m cs = .ok f) : MadeOfEscapes f := by
  obtain ⟨fs, hfs, rfl⟩ := compile_eq_ok_iff.1 h
  refine madeOfEscapes_anyOf fun g hg => ?_
  obtain ⟨c, -, hc⟩ := (mem_of_mapM_eq_ok hfs).1 hg
  exact madeOfEscapes_compileOne m hc

end Lists

end Query

structure RowStore.ScansToEnd {σ : Type} [RowStore σ] (k : σ) : Prop where
  scan : ∀ family start matcher, (RowStore.scan k family start matcher).failure = none
  collectIds : ∀ family start matcher, ∃ ids, RowStore.collectIds k family start matcher = .ok ids

theorem RowStore.AnswersAs.scansToEnd {σ : Type} [RowStore σ] {k : σ} {s : MemoryStore}
    (h : AnswersAs k s) : ScansToEnd k where
  scan family start matcher := by
    have hscan : RowStore.scan k family start matcher = ⟨s.rowsFrom family start matcher, none⟩ :=
      (h (Script.scanRows family start matcher)).trans
        (congrArg Prod.fst (Script.run_scanRows s family start matcher))
    rw [hscan]
  collectIds family start matcher := ⟨_, h (Script.collect family start matcher)⟩

namespace MailboxScan

theorem exists_runWith_eq_ok {read : String → Except FilterError Regex} {f : RowFilter}
    {matcher : Matcher} (hmatcher : f.mapPatternsM read = .ok matcher) {σ : Type} [RowStore σ]
    {k : σ} (hk : RowStore.ScansToEnd k) (mode : ScanMode) (policy : FailurePolicy) (clock : Clock)
    (m : MailboxId) :
    ∃ ids, ((runWith read ⟨mode, policy, none⟩ clock m f).run k).1 = .ok ⟨ids, true⟩ := by
  rw [runWith, hmatcher]
  cases mode with
  | client =>
    obtain ⟨rows, hrows⟩ : ∃ rows, RowStore.scan k postingFamily m.bytes matcher = ⟨rows, none⟩ :=
      ⟨_, congrArg (Scan.mk _) (hk.scan postingFamily m.bytes matcher)⟩
    refine ⟨idsOf rows, ?_⟩
    change ofScan _ clock m (RowStore.scan k postingFamily m.bytes matcher) = _
    rw [hrows, ofScan_mk_none]
  | colocated =>
    obtain ⟨ids, hids⟩ := hk.collectIds postingFamily m.bytes matcher
    refine ⟨ids, ?_⟩
    change ofCollected _ clock m (RowStore.collectIds k postingFamily m.bytes matcher) = _
    rw [hids]
    rfl

end MailboxScan

namespace Index

theorem exists_searchWith_eq_ok {read : String → Except FilterError Regex} {m : MailboxId}
    {cs : List Criterion} {f : RowFilter} {matcher : Matcher} (hf : Query.compile m cs = .ok f)
    (hmatcher : f.mapPatternsM read = .ok matcher) {σ : Type} [RowStore σ] {k : σ}
    (hk : RowStore.ScansToEnd k) (mode : ScanMode) (policy : FailurePolicy) (clock : Clock) :
    ∃ ids, ((searchWith read ⟨mode, policy, none⟩ clock m cs).run k).1 = .ok ⟨ids, true⟩ := by
  rw [searchWith, hf]
  exact MailboxScan.exists_runWith_eq_ok hmatcher hk mode policy clock m

end Index

namespace Query

open MailIndex.Filter

/-- Criteria are rejected for one that has no postings or whose date is out of range, and the first
of these is the reason. If they are not, whoever can read escapes can read the patterns, and a
search that can read them does not fail unless the store does. -/
theorem compile_rejects_exactly (m : MailboxId) (cs : List Criterion) :
    ((∃ cause, compile m cs = .error cause) ↔ ∃ c ∈ cs, c.IsUnsupported ∨ c.IsOutOfYears) ∧
      (∀ before c after, cs = before ++ c :: after →
        (∀ b ∈ before, ¬ (b.IsUnsupported ∨ b.IsOutOfYears)) →
        (c.IsUnsupported → ∃ cause, compile m cs = .error cause ∧
          (Error.query cause).code = .unsupportedCriterion) ∧
        (c.IsOutOfYears → ∃ cause, compile m cs = .error cause ∧
          (Error.query cause).code = .invalidParameter)) ∧
      ∀ f, compile m cs = .ok f →
        (∀ read : String → Except FilterError Regex, ReadsEscapes read →
          (∃ matcher, f.mapPatternsM read = .ok matcher) ∧
          ∀ {σ : Type} [RowStore σ] (k : σ), RowStore.ScansToEnd k → ∀ mode policy clock,
            ∃ ids, ((Index.searchWith read ⟨mode, policy, none⟩ clock m cs).run k).1 =
              .ok ⟨ids, true⟩) ∧
        f.prepare = f.mapPatternsM readPattern ∧
        ((∃ matcher, f.prepare = .ok matcher) ↔ Criterion.AllFit cs) ∧
        ∀ matcher, f.prepare = .ok matcher →
          ∀ {σ : Type} [RowStore σ] (k : σ), RowStore.ScansToEnd k → ∀ mode policy clock,
            ∃ ids, ((Index.search ⟨mode, policy, none⟩ clock m cs).run k).1 = .ok ⟨ids, true⟩ := by
  refine ⟨exists_compile_eq_error_iff, ?_, fun f hf =>
    ⟨fun read hread => ?_, rfl, Criterion.ready_compile_iff hf, ?_⟩⟩
  · rintro before c after rfl hbefore
    refine ⟨fun hc => ?_, fun hc => ?_⟩
    · exact ⟨_, compile_append_cons_eq_error hbefore (compileOne_of_isUnsupported hc), rfl⟩
    · obtain ⟨cause, hcause⟩ := compileOne_of_isOutOfYears (m := m) hc
      exact ⟨_, compile_append_cons_eq_error hbefore hcause, rfl⟩
  · obtain ⟨matcher, hmatcher⟩ := exists_mapPatternsM_eq_ok f fun p hp => by
      obtain ⟨parts, rfl⟩ := madeOfEscapes_compile hf p hp
      exact hread parts
    exact ⟨⟨matcher, hmatcher⟩, fun k hk => Index.exists_searchWith_eq_ok hf hmatcher hk⟩
  · intro matcher hmatcher σ _ k hk
    exact Index.exists_searchWith_eq_ok hf hmatcher hk

def rejectedTwice : List Criterion :=
  [.internalDate .on Millis.maxDate .year, .not .all,
    .internalDate .before (Millis.maxDate + 1) .day]

def lastMillisecond : List Criterion :=
  [.text "a.b" .full, .internalDate .after Millis.maxDate .second]

theorem compile_rejects_exactly_last_date :
    (∃ cause, compile (.ofNat 7) rejectedTwice = .error cause ∧
        (Error.query cause).code = .unsupportedCriterion) ∧
      (∃ f matcher, compile (.ofNat 7) lastMillisecond = .ok f ∧ f.prepare = .ok matcher) ∧
      ReadsEscapes readPatternOfAnyRoom ∧
      (∀ pattern r, readPattern pattern = .ok r → readPatternOfAnyRoom pattern = .ok r) ∧
      RowStore.ScansToEnd (∅ : MemoryStore) ∧
      (∃ ids, ((Index.searchWith readPatternOfAnyRoom .default .still (.ofNat 7)
        lastMillisecond).run (∅ : MemoryStore)).1 = .ok ⟨ids, true⟩) ∧
      ∃ ids, ((Index.search .default .still (.ofNat 7) lastMillisecond).run
        (∅ : MemoryStore)).1 = .ok ⟨ids, true⟩ := by
  have hstore : RowStore.ScansToEnd (∅ : MemoryStore) :=
    RowStore.AnswersAs.scansToEnd (RowStore.AnswersAs.refl ∅)
  obtain ⟨f, hf⟩ : ∃ f, compile (.ofNat 7) lastMillisecond = .ok f := by
    refine exists_compile_eq_ok_iff.2 (List.forall_mem_cons.2 ⟨?_, List.forall_mem_singleton.2 ?_⟩)
    · rintro (h | h) <;> exact h
    · rintro (h | h)
      · exact h
      · exact h (by decide)
  obtain ⟨-, hfirst, -⟩ := compile_rejects_exactly (.ofNat 7) rejectedTwice
  obtain ⟨-, -, haccepted⟩ := compile_rejects_exactly (.ofNat 7) lastMillisecond
  have hfit : Criterion.AllFit lastMillisecond := by
    refine .inr (List.forall_mem_cons.2 ⟨?_, List.forall_mem_singleton.2 trivial⟩)
    have hterms : Query.terms "a.b" = [.ofText "a.b"] := by decide +kernel
    change ∀ t ∈ Query.terms "a.b", t.bytes.length ≤ Criterion.termLimit
    rw [hterms, List.forall_mem_singleton]
    decide +kernel
  obtain ⟨hread, -, hprepares, hsearch⟩ := haccepted f hf
  obtain ⟨matcher, hmatcher⟩ := hprepares.2 hfit
  refine ⟨?_, ⟨f, matcher, hf, hmatcher⟩, readsEscapes_readPatternOfAnyRoom, fun _ _ =>
    readPatternOfAnyRoom_of_readPattern, hstore, ?_, hsearch matcher hmatcher ∅ hstore .client
      .partialResult .still⟩
  · refine (hfirst [_] _ _ rfl (List.forall_mem_singleton.2 ?_)).1 trivial
    rintro (h | h)
    · exact h
    · exact h (by decide)
  · exact (hread _ readsEscapes_readPatternOfAnyRoom).2 ∅ hstore .client .partialResult .still

end Query

end MailIndex
