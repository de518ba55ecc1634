import MailIndex.Proofs.Bytes
import MailIndex.Proofs.Regex.Room
import MailIndex.RowFilter

namespace MailIndex

namespace Filter

def Ready (f : RowFilter) : Prop := ∃ matcher, f.prepare = .ok matcher

def Passes (f : RowFilter) (row : Bytes) (cell : Cell) : Prop :=
  ∃ matcher, f.prepare = .ok matcher ∧ matcher.holds row cell = true

variable {f : RowFilter} {fs : List RowFilter} {row : Bytes} {cell : Cell}

theorem Passes.ready (h : f.Passes row cell) : f.Ready := by
  obtain ⟨matcher, hmatcher, -⟩ := h
  exact ⟨matcher, hmatcher⟩

theorem passes_iff_holds {matcher : Matcher} (h : f.prepare = .ok matcher) :
    f.Passes row cell ↔ matcher.holds row cell = true := by
  constructor
  · rintro ⟨matcher', h', hholds⟩
    cases h.symm.trans h'
    exact hholds
  · intro hholds
    exact ⟨matcher, h, hholds⟩

theorem prepare_of_not_ready (h : ¬ f.Ready) :
    ∃ pattern, f.prepare = .error (.badPattern pattern) := by
  cases hf : f.prepare with
  | ok matcher => exact absurd ⟨matcher, hf⟩ h
  | error cause =>
    cases cause with
    | badPattern pattern => exact ⟨pattern, rfl⟩

section Leaves

variable {lower upper : Bound Bytes} {start needle : Bytes}

theorem ready_all : Ready .all := ⟨.all, rfl⟩

theorem passes_all : Passes .all row cell := ⟨.all, rfl, rfl⟩

theorem ready_rowStarts : Ready (.rowStarts start) := ⟨.rowStarts start, rfl⟩

theorem passes_rowStarts : Passes (.rowStarts start) row cell ↔ start <+: row := by
  have h : prepare (.rowStarts start) = .ok (.rowStarts start) := rfl
  rw [passes_iff_holds h, holds, List.isPrefixOf_iff_prefix]

theorem ready_rowEquals : Ready (.rowEquals start) := ⟨.rowEquals start, rfl⟩

theorem passes_rowEquals : Passes (.rowEquals start) row cell ↔ row = start := by
  have h : prepare (.rowEquals start) = .ok (.rowEquals start) := rfl
  rw [passes_iff_holds h, holds, beq_iff_eq]

theorem ready_valueContains : Ready (.valueContains needle) := ⟨.valueContains needle, rfl⟩

theorem passes_valueContains :
    Passes (.valueContains needle) row cell ↔ needle <:+: cell.value := by
  have h : prepare (.valueContains needle) = .ok (.valueContains needle) := rfl
  rw [passes_iff_holds h, holds, Bytes.contains_iff]

theorem ready_valueExcludes : Ready (.valueExcludes needle) := ⟨.valueExcludes needle, rfl⟩

theorem passes_valueExcludes :
    Passes (.valueExcludes needle) row cell ↔ ¬ needle <:+: cell.value := by
  have h : prepare (.valueExcludes needle) = .ok (.valueExcludes needle) := rfl
  rw [passes_iff_holds h, holds, Bool.not_eq_true', ← Bool.not_eq_true, Bytes.contains_iff]

theorem ready_rowWithin : Ready (.rowWithin lower upper) := ⟨.rowWithin lower upper, rfl⟩

theorem passes_rowWithin :
    Passes (.rowWithin lower upper) row cell ↔
      (lower.admitsAbove row && upper.admitsBelow row) = true := by
  have h : prepare (.rowWithin lower upper) = .ok (.rowWithin lower upper) := rfl
  rw [passes_iff_holds h, holds]

theorem prepare_rowContains :
    prepare (rowContains start needle) =
      if start.length + needle.length ≤ Regex.containsLimit then
        .ok (.rowMatches (Regex.containsRegex start needle))
      else .error (.badPattern (String.ofList
        ('^' :: escapedChars start ++ ".*?".toList ++ escapedChars needle))) := by
  have h := Regex.ofPattern?_rowContains start needle
  rw [prepare, rowContains, mapPatternsM, readPattern, h]
  by_cases hlimit : start.length + needle.length ≤ Regex.containsLimit
  · simp only [if_pos hlimit]
    rfl
  · simp only [if_neg hlimit]
    rfl

theorem ready_rowContains :
    Ready (rowContains start needle) ↔ start.length + needle.length ≤ Regex.containsLimit := by
  rw [Ready, prepare_rowContains]
  split <;> simp_all

theorem exists_between_iff :
    (∃ between rest, row = start ++ between ++ needle ++ rest) ↔
      start <+: row ∧ needle <:+: row.drop start.length := by
  constructor
  · rintro ⟨between, rest, rfl⟩
    have happend : start ++ between ++ needle ++ rest = start ++ (between ++ needle ++ rest) := by
      simp
    rw [happend, List.drop_left]
    exact ⟨List.prefix_append _ _, between, rest, rfl⟩
  · rintro ⟨⟨tail, rfl⟩, hneedle⟩
    rw [List.drop_left] at hneedle
    obtain ⟨between, rest, rfl⟩ := hneedle
    exact ⟨between, rest, by simp⟩

theorem passes_rowContains :
    Passes (rowContains start needle) row cell ↔
      start.length + needle.length ≤ Regex.containsLimit ∧
        start <+: row ∧ needle <:+: row.drop start.length := by
  have h : prepare (rowContains start needle) = _ := prepare_rowContains
  by_cases hlimit : start.length + needle.length ≤ Regex.containsLimit
  · rw [if_pos hlimit] at h
    rw [passes_iff_holds h, holds, Regex.isMatch_containsRegex, exists_between_iff]
    exact (and_iff_right hlimit).symm
  · constructor
    · intro hpasses
      exact absurd (ready_rowContains.1 hpasses.ready) hlimit
    · intro hboth
      exact absurd hboth.1 hlimit

end Leaves

section Lists

section Reading

variable {ρ σ ε : Type} {read : ρ → Except ε σ} {g : Filter ρ} {gs : List (Filter ρ)}

theorem mapAllPatternsM_cons_eq_ok {results : List (Filter σ)} :
    mapAllPatternsM read (g :: gs) = .ok results ↔
      ∃ m ms, mapPatternsM read g = .ok m ∧ mapAllPatternsM read gs = .ok ms ∧
        results = m :: ms := by
  rw [mapAllPatternsM]
  cases mapPatternsM read g with
  | error cause => exact ⟨nofun, nofun⟩
  | ok m =>
    cases mapAllPatternsM read gs with
    | error cause => exact ⟨nofun, nofun⟩
    | ok ms =>
      constructor
      · rintro ⟨⟩
        exact ⟨m, ms, rfl, rfl, rfl⟩
      · rintro ⟨m, ms, ⟨⟩, ⟨⟩, rfl⟩
        rfl

theorem exists_mapAllPatternsM_eq_ok_iff :
    (∃ results, mapAllPatternsM read gs = .ok results) ↔
      ∀ g ∈ gs, ∃ m, mapPatternsM read g = .ok m := by
  induction gs with
  | nil => exact ⟨nofun, fun _ => ⟨[], rfl⟩⟩
  | cons g gs ih =>
    simp only [mapAllPatternsM_cons_eq_ok, List.forall_mem_cons, ← ih]
    constructor
    · rintro ⟨_, m, ms, hm, hms, rfl⟩
      exact ⟨⟨m, hm⟩, ms, hms⟩
    · rintro ⟨⟨m, hm⟩, ms, hms⟩
      exact ⟨m :: ms, m, ms, hm, hms, rfl⟩

end Reading

theorem forall_ready_iff_exists :
    (∀ f ∈ fs, Ready f) ↔ ∃ matchers, mapAllPatternsM readPattern fs = .ok matchers :=
  exists_mapAllPatternsM_eq_ok_iff.symm

theorem holdsAny_iff {matchers : List Matcher}
    (h : mapAllPatternsM readPattern fs = .ok matchers) :
    holdsAny row cell matchers = true ↔ ∃ f ∈ fs, f.Passes row cell := by
  induction fs generalizing matchers with
  | nil =>
    cases h
    simp [holdsAny]
  | cons f fs ih =>
    obtain ⟨m, ms, hm, hms, rfl⟩ := mapAllPatternsM_cons_eq_ok.1 h
    rw [holdsAny, Bool.or_eq_true, ih hms, ← passes_iff_holds hm]
    simp

theorem holdsAll_iff {matchers : List Matcher}
    (h : mapAllPatternsM readPattern fs = .ok matchers) :
    holdsAll row cell matchers = true ↔ ∀ f ∈ fs, f.Passes row cell := by
  induction fs generalizing matchers with
  | nil =>
    cases h
    simp [holdsAll]
  | cons f fs ih =>
    obtain ⟨m, ms, hm, hms, rfl⟩ := mapAllPatternsM_cons_eq_ok.1 h
    rw [holdsAll, Bool.and_eq_true, ih hms, ← passes_iff_holds hm]
    simp

theorem prepare_disj_eq_ok {matcher : Matcher} :
    prepare (.disj fs) = .ok matcher ↔
      ∃ ms, mapAllPatternsM readPattern fs = .ok ms ∧ matcher = .disj ms := by
  rw [prepare, mapPatternsM]
  cases mapAllPatternsM readPattern fs with
  | error cause => exact ⟨nofun, nofun⟩
  | ok ms => simp [Except.map, eq_comm]

theorem prepare_conj_eq_ok {matcher : Matcher} :
    prepare (.conj fs) = .ok matcher ↔
      ∃ ms, mapAllPatternsM readPattern fs = .ok ms ∧ matcher = .conj ms := by
  rw [prepare, mapPatternsM]
  cases mapAllPatternsM readPattern fs with
  | error cause => exact ⟨nofun, nofun⟩
  | ok ms => simp [Except.map, eq_comm]

theorem ready_disj : Ready (.disj fs) ↔ ∀ f ∈ fs, Ready f := by
  rw [forall_ready_iff_exists]
  constructor
  · rintro ⟨matcher, hm⟩
    obtain ⟨ms, hms, rfl⟩ := prepare_disj_eq_ok.1 hm
    exact ⟨ms, hms⟩
  · rintro ⟨ms, hms⟩
    exact ⟨.disj ms, prepare_disj_eq_ok.2 ⟨ms, hms, rfl⟩⟩

theorem ready_conj : Ready (.conj fs) ↔ ∀ f ∈ fs, Ready f := by
  rw [forall_ready_iff_exists]
  constructor
  · rintro ⟨matcher, hm⟩
    obtain ⟨ms, hms, rfl⟩ := prepare_conj_eq_ok.1 hm
    exact ⟨ms, hms⟩
  · rintro ⟨ms, hms⟩
    exact ⟨.conj ms, prepare_conj_eq_ok.2 ⟨ms, hms, rfl⟩⟩

theorem passes_disj :
    Passes (.disj fs) row cell ↔ (∀ f ∈ fs, Ready f) ∧ ∃ f ∈ fs, f.Passes row cell := by
  rw [forall_ready_iff_exists]
  constructor
  · rintro ⟨matcher, hm, h⟩
    obtain ⟨ms, hms, rfl⟩ := prepare_disj_eq_ok.1 hm
    exact ⟨⟨ms, hms⟩, (holdsAny_iff hms).1 h⟩
  · rintro ⟨⟨ms, hms⟩, h⟩
    exact ⟨.disj ms, prepare_disj_eq_ok.2 ⟨ms, hms, rfl⟩, (holdsAny_iff hms).2 h⟩

theorem passes_conj (hready : ∀ f ∈ fs, Ready f) :
    Passes (.conj fs) row cell ↔ ∀ f ∈ fs, f.Passes row cell := by
  obtain ⟨ms, hms⟩ := forall_ready_iff_exists.1 hready
  have hm : prepare (.conj fs) = .ok (.conj ms) := prepare_conj_eq_ok.2 ⟨ms, hms, rfl⟩
  rw [passes_iff_holds hm, holds, holdsAll_iff hms]

end Lists

section Union

theorem ready_alternatives : (∀ g ∈ f.alternatives, Ready g) ↔ f.Ready := by
  cases f with
  | disj parts => exact ready_disj.symm
  | _ => simp [alternatives]

theorem passes_alternatives :
    ((∀ g ∈ f.alternatives, Ready g) ∧ ∃ g ∈ f.alternatives, g.Passes row cell) ↔
      f.Passes row cell := by
  cases f with
  | disj parts => exact passes_disj.symm
  | _ => simpa [alternatives] using fun h => h.ready

theorem ready_flatMap_alternatives :
    (∀ g ∈ fs.flatMap alternatives, Ready g) ↔ ∀ f ∈ fs, Ready f := by
  rw [List.forall_mem_flatMap]
  exact forall₂_congr fun f _ => ready_alternatives

theorem eq_all_of_isAll {ρ : Type} {f : Filter ρ} (h : f.isAll = true) : f = .all := by
  cases f with
  | all => rfl
  | _ => cases h

theorem anyOf_of_exists_isAll (h : ∃ f ∈ fs, f.isAll = true) : anyOf fs = .all := by
  rw [anyOf, if_pos (List.any_eq_true.2 h)]

theorem anyOf_of_not_isAll (h : ¬ ∃ f ∈ fs, f.isAll = true) (hne : fs.flatMap alternatives ≠ []) :
    fs.flatMap alternatives = [anyOf fs] ∨ anyOf fs = .disj (fs.flatMap alternatives) := by
  rw [anyOf, if_neg fun h' => h (List.any_eq_true.1 h')]
  match hparts : fs.flatMap alternatives with
  | [] => exact absurd hparts hne
  | [g] => exact .inl rfl
  | g :: g' :: rest => exact .inr rfl

theorem anyOf_of_two_le (h : ¬ ∃ f ∈ fs, f.isAll = true)
    (hlength : 2 ≤ (fs.flatMap alternatives).length) :
    anyOf fs = .disj (fs.flatMap alternatives) := by
  have hne : fs.flatMap alternatives ≠ [] := by
    intro hnil
    rw [hnil] at hlength
    cases hlength
  rcases anyOf_of_not_isAll h hne with hone | hmany
  · rw [hone] at hlength
    cases Nat.le_of_succ_le_succ hlength
  · exact hmany

variable (hne : fs.flatMap alternatives ≠ [])
include hne

theorem ready_anyOf :
    Ready (anyOf fs) ↔ (∃ f ∈ fs, f.isAll = true) ∨ ∀ f ∈ fs, Ready f := by
  by_cases h : ∃ f ∈ fs, f.isAll = true
  · rw [anyOf_of_exists_isAll h]
    exact ⟨fun _ => .inl h, fun _ => ready_all⟩
  · have hparts : Ready (anyOf fs) ↔ ∀ g ∈ fs.flatMap alternatives, Ready g := by
      rcases anyOf_of_not_isAll h hne with hone | hmany
      · rw [hone, List.forall_mem_singleton]
      · rw [hmany, ready_disj]
    rw [hparts, ready_flatMap_alternatives]
    exact (or_iff_right h).symm

theorem passes_anyOf :
    Passes (anyOf fs) row cell ↔ (∃ f ∈ fs, f.isAll = true) ∨
      (∀ f ∈ fs, Ready f) ∧ ∃ f ∈ fs, f.Passes row cell := by
  by_cases h : ∃ f ∈ fs, f.isAll = true
  · rw [anyOf_of_exists_isAll h]
    exact ⟨fun _ => .inl h, fun _ => passes_all⟩
  · have hparts : Passes (anyOf fs) row cell ↔ (∀ g ∈ fs.flatMap alternatives, Ready g) ∧
        ∃ g ∈ fs.flatMap alternatives, g.Passes row cell := by
      rcases anyOf_of_not_isAll h hne with hone | hmany
      · rw [hone, List.forall_mem_singleton]
        simpa using fun h => h.ready
      · rw [hmany, passes_disj]
    rw [hparts, ready_flatMap_alternatives]
    refine (and_congr_right fun hready => ?_).trans (or_iff_right h).symm
    constructor
    · rintro ⟨g, hg, hpasses⟩
      obtain ⟨f, hf, hgf⟩ := List.mem_flatMap.1 hg
      exact ⟨f, hf, passes_alternatives.1 ⟨ready_alternatives.2 (hready f hf), g, hgf, hpasses⟩⟩
    · rintro ⟨f, hf, hpasses⟩
      obtain ⟨-, g, hgf, hpasses⟩ := passes_alternatives.2 hpasses
      exact ⟨g, List.mem_flatMap.2 ⟨f, hf, hgf⟩, hpasses⟩

end Union

theorem passes_anyOf_singleton (hne : f.alternatives ≠ []) :
    Passes (anyOf [f]) row cell ↔ f.Passes row cell := by
  have hflat : [f].flatMap alternatives ≠ [] := by
    rwa [List.flatMap_singleton]
  rw [passes_anyOf hflat]
  simp only [List.mem_singleton, exists_eq_left, forall_eq]
  constructor
  · rintro (hall | ⟨-, hpasses⟩)
    · rw [eq_all_of_isAll hall]
      exact passes_all
    · exact hpasses
  · intro hpasses
    exact .inr ⟨hpasses.ready, hpasses⟩

end Filter

end MailIndex
