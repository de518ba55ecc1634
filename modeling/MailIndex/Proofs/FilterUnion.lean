import MailIndex.Proofs.RowFilter

namespace MailIndex.Filter

theorem alternatives_eq_nil_iff {ρ : Type} {f : Filter ρ} : f.alternatives = [] ↔ f = .disj [] := by
  cases f <;> simp [alternatives]

theorem flatMap_alternatives_eq_nil_iff {ρ : Type} {fs : List (Filter ρ)} :
    fs.flatMap alternatives = [] ↔ ∀ f ∈ fs, f = .disj [] := by
  simp only [List.flatMap_eq_nil_iff, alternatives_eq_nil_iff]

variable {fs : List RowFilter} {row : Bytes} {cell : Cell}

theorem not_passes_disj_nil : ¬ Passes (.disj []) row cell := by
  rw [passes_disj]
  rintro ⟨-, f, hf, -⟩
  cases hf

theorem anyOf_eq_all_of_forall_eq_disj_nil (h : ∀ f ∈ fs, f = .disj []) : anyOf fs = .all := by
  have hall : ¬ ∃ f ∈ fs, f.isAll = true := by
    rintro ⟨f, hf, hisAll⟩
    rw [h f hf] at hisAll
    cases hisAll
  rw [anyOf, if_neg fun h' => hall (List.any_eq_true.1 h'), flatMap_alternatives_eq_nil_iff.2 h]

theorem passes_anyOf_iff_exists (hready : ∀ f ∈ fs, f.Ready) (h : ∃ f ∈ fs, f ≠ .disj []) :
    (anyOf fs).Passes row cell ↔ ∃ f ∈ fs, f.Passes row cell := by
  have hne : fs.flatMap alternatives ≠ [] := by
    obtain ⟨f, hf, hdisj⟩ := h
    exact fun hnil => hdisj (flatMap_alternatives_eq_nil_iff.1 hnil f hf)
  rw [passes_anyOf hne, and_iff_right hready, or_iff_right_iff_imp]
  rintro ⟨f, hf, hall⟩
  rw [eq_all_of_isAll hall] at hf
  exact ⟨.all, hf, passes_all⟩

theorem ready_anyOf_of_forall (hready : ∀ f ∈ fs, f.Ready) : (anyOf fs).Ready := by
  by_cases hnil : fs.flatMap alternatives = []
  · rw [anyOf_eq_all_of_forall_eq_disj_nil (flatMap_alternatives_eq_nil_iff.1 hnil)]
    exact ready_all
  · exact (ready_anyOf hnil).2 (.inr hready)

/-- A union passes what one of its filters passes, unless all of them are unions without parts:
then it passes every cell and they pass none. -/
theorem anyOf_passes_union_iff (hready : ∀ f ∈ fs, f.Ready) :
    (anyOf fs).Ready ∧
      ((∀ row cell, (anyOf fs).Passes row cell ↔ ∃ f ∈ fs, f.Passes row cell) ↔
        ∃ f ∈ fs, f ≠ .disj []) := by
  refine ⟨ready_anyOf_of_forall hready, fun hunion => ?_, fun h row cell => ?_⟩
  · by_contra hempty
    have hempty : ∀ f ∈ fs, f = .disj [] := by simpa using hempty
    have hall := anyOf_eq_all_of_forall_eq_disj_nil hempty
    obtain ⟨f, hf, hpasses⟩ := (hunion [] ⟨[], []⟩).1 (hall ▸ passes_all)
    rw [hempty f hf] at hpasses
    exact not_passes_disj_nil hpasses
  · exact passes_anyOf_iff_exists hready h

def nothingOrRow : List RowFilter := [.disj [], .disj [.disj [.rowEquals [1]]]]

theorem anyOf_passes_union_iff_nothing_or_row :
    (∀ f ∈ nothingOrRow, f.Ready) ∧ ∀ row cell,
      (anyOf nothingOrRow).Passes row cell ↔ ∃ f ∈ nothingOrRow, f.Passes row cell := by
  have hready : ∀ f ∈ nothingOrRow, f.Ready := by
    refine List.forall_mem_cons.2 ⟨ready_disj.2 nofun, List.forall_mem_singleton.2 ?_⟩
    refine ready_disj.2 (List.forall_mem_singleton.2 ?_)
    exact ready_disj.2 (List.forall_mem_singleton.2 ready_rowEquals)
  refine ⟨hready, (anyOf_passes_union_iff hready).2.2 ?_⟩
  exact ⟨_, List.mem_cons_of_mem _ List.mem_cons_self, nofun⟩

theorem anyOf_widens_empty_union :
    let fs : List RowFilter := [.disj []]
    fs ≠ [] ∧ (∀ f ∈ fs, f.Ready) ∧ (anyOf fs).Passes [] ⟨[], []⟩ ∧
      ¬ ∃ f ∈ fs, f.Passes [] ⟨[], []⟩ := by
  refine ⟨nofun, List.forall_mem_singleton.2 (ready_disj.2 nofun), passes_all, ?_⟩
  rintro ⟨f, hf, hpasses⟩
  rw [List.mem_singleton.1 hf] at hpasses
  exact not_passes_disj_nil hpasses

end MailIndex.Filter
