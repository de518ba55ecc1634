import MailIndex.Proofs.Acceptance
import MailIndex.Proofs.HeaderSearch
import MailIndex.Proofs.InterruptedScans

namespace MailIndex

open MailIndex.Filter MailIndex.Query

namespace Criterion

def Picks (m : MailboxId) (row : Bytes) (cell : Cell) (c : Criterion) : Prop :=
  ∃ f, compileOne m c = .ok f ∧ f.Passes row cell

variable {m : MailboxId} {cs : List Criterion} {f : RowFilter}

theorem IsAll.picks {c : Criterion} (h : c.IsAll) (m : MailboxId) (row : Bytes) (cell : Cell) :
    c.Picks m row cell := by
  cases c with
  | all => exact ⟨.all, rfl, passes_all⟩
  | text value scope =>
    refine ⟨.all, ?_, passes_all⟩
    rw [compileOne, terms_eq_nil_iff.2 h]
  | _ => cases h

theorem passes_compile_iff (hcs : cs ≠ []) (h : compile m cs = .ok f) (row : Bytes) (cell : Cell) :
    f.Passes row cell ↔ AllFit cs ∧ ∃ c ∈ cs, c.Picks m row cell := by
  obtain ⟨fs, hfs, rfl⟩ := compile_eq_ok_iff.1 h
  have hcompiles := forall₂_compiles hfs
  have hpicks : (∃ g ∈ fs, g.Passes row cell) ↔ ∃ c ∈ cs, c.Picks m row cell := by
    simp only [mem_of_mapM_eq_ok hfs, Picks]
    grind
  rw [passes_anyOf (flatMap_alternatives_ne_nil hcompiles hcs), exists_isAll_iff hcompiles,
    forall_ready_iff hcompiles, hpicks, AllFit, or_and_right]
  refine or_congr_left (and_iff_left_of_imp ?_).symm
  rintro ⟨c, hc, hall⟩
  exact ⟨c, hc, hall.picks m row cell⟩

theorem allFit_append_iff {a b : List Criterion} :
    AllFit (a ++ b) ↔ (∃ c ∈ a ++ b, c.IsAll) ∨ AllFit a ∧ AllFit b := by
  have hall : (∃ c ∈ a ++ b, c.IsAll) ↔ (∃ c ∈ a, c.IsAll) ∨ ∃ c ∈ b, c.IsAll := by
    simp only [List.mem_append, or_and_right, exists_or]
  rw [AllFit, AllFit, AllFit, List.forall_mem_append, hall]
  grind

theorem exists_compile_append {a b : List Criterion} {f g : RowFilter} (ha : a ≠ []) (hb : b ≠ [])
    (hf : compile m a = .ok f) (hg : compile m b = .ok g) :
    ∃ u, compile m (a ++ b) = .ok u ∧ (u.Ready ↔ (∃ c ∈ a ++ b, c.IsAll) ∨ f.Ready ∧ g.Ready) ∧
      (f.Ready → g.Ready → ∀ row cell,
        u.Passes row cell ↔ f.Passes row cell ∨ g.Passes row cell) := by
  have hne : a ++ b ≠ [] := List.append_ne_nil_of_left_ne_nil ha b
  obtain ⟨u, hu⟩ := exists_compile_eq_ok_iff.2 (List.forall_mem_append.2
    ⟨exists_compile_eq_ok_iff.1 ⟨f, hf⟩, exists_compile_eq_ok_iff.1 ⟨g, hg⟩⟩)
  refine ⟨u, hu, ?_⟩
  rw [ready_compile_iff hu, ready_compile_iff hf, ready_compile_iff hg]
  refine ⟨allFit_append_iff, fun hfita hfitb row cell => ?_⟩
  rw [passes_compile_iff hne hu, passes_compile_iff ha hf, passes_compile_iff hb hg,
    and_iff_right (allFit_append_iff.2 (.inr ⟨hfita, hfitb⟩)), and_iff_right hfita,
    and_iff_right hfitb]
  simp only [List.mem_append, or_and_right, exists_or]

section SameMembers

variable {cs' : List Criterion} (hmem : ∀ c, c ∈ cs' ↔ c ∈ cs)
include hmem

theorem allFit_congr : AllFit cs' ↔ AllFit cs := by
  simp only [AllFit, hmem]

theorem exists_compile_of_mem_iff (hcs : cs ≠ []) (h : compile m cs = .ok f) :
    ∃ g, compile m cs' = .ok g ∧ (g.Ready ↔ f.Ready) ∧
      ∀ row cell, g.Passes row cell ↔ f.Passes row cell := by
  have hcs' : cs' ≠ [] := by
    rintro rfl
    obtain ⟨c, hc⟩ := List.exists_mem_of_ne_nil cs hcs
    exact List.not_mem_nil ((hmem c).2 hc)
  have haccepted := exists_compile_eq_ok_iff.1 ⟨f, h⟩
  obtain ⟨g, hg⟩ := exists_compile_eq_ok_iff.2 fun c hc => haccepted c ((hmem c).1 hc)
  refine ⟨g, hg, ?_, fun row cell => ?_⟩
  · rw [ready_compile_iff hg, ready_compile_iff h, allFit_congr hmem]
  · rw [passes_compile_iff hcs' hg, passes_compile_iff hcs h, allFit_congr hmem]
    simp only [hmem]

end SameMembers

end Criterion

namespace Index

open MailIndex.MailboxScan

section Answers

variable {σ : Type} [RowStore σ] {k : σ} {s : MemoryStore} (hk : RowStore.AnswersAs k s)
  {options : ScanOptions} {clock : Clock} {m : MailboxId} {cs : List Criterion} {f : RowFilter}
  (hf : compile m cs = .ok f)
include hk hf

theorem exists_search_eq_ok_of_not_timesOut (hover : ¬ TimesOut clock options.timeout)
    (hready : f.Ready) :
    ∃ ids, ((search options clock m cs).run k).1 = .ok ⟨ids, true⟩ ∧
      ∀ id, id ∈ ids.toList ↔ ∃ p value, s.find? (postingCell m id p) = some value ∧
        f.Passes (RowKey.encode ⟨m, p.field, p.term⟩) ⟨Qualifier.encode id, value⟩ := by
  obtain ⟨matcher, hmatcher⟩ := hready
  refine ⟨_, ?_, mem_idsOf_iff s m hmatcher⟩
  rw [hk, search_of_compile_eq_ok hf]
  have hends := Script.ends_run (fun _ => False) (MailboxScan.run options clock m f) s
  exact (comesTo_of_ends hmatcher hends).eq_complete (by simpa using hover)

end Answers

section Unions

variable {m : MailboxId} {a b : List Criterion} {f g : RowFilter} (ha : a ≠ []) (hb : b ≠ [])
  (hf : compile m a = .ok f) (hg : compile m b = .ok g)
include ha hb hf hg

theorem exists_search_append_eq_ok (hready : f.Ready) (hready' : g.Ready) {σ : Type} [RowStore σ]
    {k : σ} {s : MemoryStore} (hk : RowStore.AnswersAs k s) {options : ScanOptions} {clock : Clock}
    (hover : ¬ TimesOut clock options.timeout) :
    ∃ i j l, ((search options clock m a).run k).1 = .ok ⟨i, true⟩ ∧
      ((search options clock m b).run k).1 = .ok ⟨j, true⟩ ∧
      ((search options clock m (a ++ b)).run k).1 = .ok ⟨l, true⟩ ∧
      ∀ id, id ∈ l.toList ↔ id ∈ i.toList ∨ id ∈ j.toList := by
  obtain ⟨u, hu, hupready, hpasses⟩ := Criterion.exists_compile_append ha hb hf hg
  obtain ⟨i, hi, hmemi⟩ := exists_search_eq_ok_of_not_timesOut hk hf hover hready
  obtain ⟨j, hj, hmemj⟩ := exists_search_eq_ok_of_not_timesOut hk hg hover hready'
  obtain ⟨l, hl, hmeml⟩ :=
    exists_search_eq_ok_of_not_timesOut hk hu hover (hupready.2 (.inr ⟨hready, hready'⟩))
  refine ⟨i, j, l, hi, hj, hl, fun id => ?_⟩
  rw [hmeml, hmemi, hmemj, ← exists_or]
  refine exists_congr fun p => ?_
  rw [← exists_or]
  refine exists_congr fun value => ?_
  rw [hpasses hready hready', and_or_left]

/-- Criteria find together what they find one by one, in any order and however often they are given,
if there is room for the patterns of all of them. If there is not, they find everything because one
of them asks for it, or the search fails. -/
theorem search_append_finds_union :
    ∃ u, compile m (a ++ b) = .ok u ∧
      ((f.Ready ↔ Criterion.AllFit a) ∧ (g.Ready ↔ Criterion.AllFit b) ∧
        (u.Ready ↔ (∃ c ∈ a ++ b, c.IsAll) ∨ f.Ready ∧ g.Ready)) ∧
      (f.Ready → g.Ready →
        (∀ row cell, u.Passes row cell ↔ f.Passes row cell ∨ g.Passes row cell) ∧
        ∀ {σ : Type} [RowStore σ] (k : σ) (s : MemoryStore), RowStore.AnswersAs k s →
          ∀ options clock, ¬ TimesOut clock options.timeout →
          ∃ i j l, ((search options clock m a).run k).1 = .ok ⟨i, true⟩ ∧
            ((search options clock m b).run k).1 = .ok ⟨j, true⟩ ∧
            ((search options clock m (a ++ b)).run k).1 = .ok ⟨l, true⟩ ∧
            ∀ id, id ∈ l.toList ↔ id ∈ i.toList ∨ id ∈ j.toList) ∧
      ((∃ c ∈ a ++ b, c.IsAll) → ∀ row cell, u.Passes row cell) ∧
      (¬ u.Ready → ∀ {σ : Type} [RowStore σ] (k : σ) (s : MemoryStore), RowStore.AnswersAs k s →
        ∀ options clock, ∃ pattern, ((search options clock m (a ++ b)).run k).1 =
          .error (.filter (.badPattern pattern))) ∧
      ∀ cs, (∀ c, c ∈ cs ↔ c ∈ a ++ b) → ∃ v, compile m cs = .ok v ∧ (v.Ready ↔ u.Ready) ∧
        ∀ row cell, v.Passes row cell ↔ u.Passes row cell := by
  have hne : a ++ b ≠ [] := List.append_ne_nil_of_left_ne_nil ha b
  obtain ⟨u, hu, hready, hpasses⟩ := Criterion.exists_compile_append ha hb hf hg
  refine ⟨u, hu, ⟨Criterion.ready_compile_iff hf, Criterion.ready_compile_iff hg, hready⟩,
    fun hfready hgready => ⟨hpasses hfready hgready, fun k s hk options clock hover => ?_⟩,
    fun hall row cell => ?_, fun hnot => fun k s hk options clock => ?_, fun cs hmem => ?_⟩
  · exact exists_search_append_eq_ok ha hb hf hg hfready hgready hk hover
  · obtain ⟨c, hc, hisAll⟩ := hall
    exact (Criterion.passes_compile_iff hne hu row cell).2
      ⟨.inl ⟨c, hc, hisAll⟩, c, hc, hisAll.picks m row cell⟩
  · exact search_eq_error hk clock hu options hnot
  · exact Criterion.exists_compile_of_mem_iff hmem hne hu

end Unions

def hasSubject : List Criterion := [.headerContains "Subject" "hi"]

theorem fits_hasSubject : (Criterion.headerContains "Subject" "hi").Fits := by
  change (Term.ofText "hi").bytes.length ≤ Criterion.termLimit
  decide +kernel

theorem allFit_hasSubject : Criterion.AllFit hasSubject :=
  .inr (List.forall_mem_singleton.2 fits_hasSubject)

theorem search_append_finds_union_seen_or_subject :
    let b : List Criterion := [.flag (.system .seen) true, .internalDate .after 0 .month]
    let options : ScanOptions := ⟨.colocated, .propagate, some 5⟩
    let k := Operation.runAll (∅ : MemoryStore) shortSubject
    Criterion.AllFit hasSubject ∧ Criterion.AllFit b ∧ ¬ TimesOut .still options.timeout ∧
      ∃ i j l, ((search options .still (.ofNat 7) hasSubject).run k).1 = .ok ⟨i, true⟩ ∧
        ((search options .still (.ofNat 7) b).run k).1 = .ok ⟨j, true⟩ ∧
        ((search options .still (.ofNat 7) (hasSubject ++ b)).run k).1 = .ok ⟨l, true⟩ ∧
        ∀ id, id ∈ l.toList ↔ id ∈ i.toList ∨ id ∈ j.toList := by
  intro b options k
  have hfitb : Criterion.AllFit b :=
    .inr (List.forall_mem_cons.2 ⟨trivial, List.forall_mem_singleton.2 trivial⟩)
  have hover : ¬ TimesOut .still options.timeout := by
    rintro ⟨n, hn⟩
    cases hn
  obtain ⟨u, -, ⟨hready, hready', -⟩, hunion, -⟩ := search_append_finds_union
    (m := .ofNat 7) (a := hasSubject) (b := b) (List.cons_ne_nil _ _) (List.cons_ne_nil _ _) rfl rfl
  exact ⟨allFit_hasSubject, hfitb, hover, (hunion (hready.2 allFit_hasSubject)
    (hready'.2 hfitb)).2 k k (RowStore.AnswersAs.refl k) options .still hover⟩

theorem not_allFit_longSubject_append : ¬ Criterion.AllFit (longSubject ++ hasSubject) := by
  rw [Criterion.allFit_append_iff]
  rintro (⟨c, hc, hall⟩ | ⟨hfit, -⟩)
  · rcases List.mem_cons.1 hc with rfl | hc
    · exact hall
    · rw [List.mem_singleton.1 hc] at hall
      exact hall
  · exact not_allFit_longSubject hfit

theorem search_long_subject_spoils_union :
    let m : MailboxId := .ofNat 7
    let row := RowKey.encode ⟨m, .baseSubject, .ofText "hi"⟩
    let k := Operation.runAll (∅ : MemoryStore) shortSubject
    longSubject ≠ [] ∧ hasSubject ≠ [] ∧ (∃ f, compile m longSubject = .ok f) ∧
      (∃ g, compile m hasSubject = .ok g ∧ ∀ cell, g.Passes row cell) ∧
      (∃ u, compile m (longSubject ++ hasSubject) = .ok u ∧ ∀ cell, ¬ u.Passes row cell) ∧
      ∀ mode policy clock,
        (∃ j, ((search ⟨mode, policy, none⟩ clock m hasSubject).run k).1 = .ok ⟨j, true⟩ ∧
          7 ∈ j.toList) ∧
        ∃ pattern, ((search ⟨mode, policy, none⟩ clock m (longSubject ++ hasSubject)).run k).1 =
          .error (.filter (.badPattern pattern)) := by
  intro m row k
  have hk : RowStore.AnswersAs k k := RowStore.AnswersAs.refl k
  have hne : longSubject ++ hasSubject ≠ [] := List.cons_ne_nil _ _
  obtain ⟨u, hu⟩ : ∃ u, compile m (longSubject ++ hasSubject) = .ok u := ⟨_, rfl⟩
  refine ⟨List.cons_ne_nil _ _, List.cons_ne_nil _ _, ⟨_, rfl⟩,
    ⟨_, compile_headerContains rfl m, fun cell => ?_⟩, ⟨u, hu, fun cell hpasses => ?_⟩,
    fun mode policy clock => ⟨?_, search_eq_error hk clock hu _ ?_⟩⟩
  · exact (passes_termMatch ..).2 ⟨fits_hasSubject, rfl, rfl, List.infix_rfl⟩
  · exact not_allFit_longSubject_append
      ((Criterion.passes_compile_iff hne hu row cell).1 hpasses).1
  · obtain ⟨j, hsearch, hj⟩ :=
      exists_search_headerContains rfl hk m mode policy clock fits_hasSubject
    refine ⟨j, hsearch, (hj 7).2 ⟨.ofText "hi", List.infix_rfl, ?_⟩⟩
    decide +kernel
  · rw [Criterion.ready_compile_iff hu]
    exact not_allFit_longSubject_append

end Index

end MailIndex
