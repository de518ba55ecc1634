import Mathlib.Tactic.Tauto
import MailIndex.Order

namespace MailIndex

namespace StrictTotal

variable {κ : Type} [LT κ] [StrictTotal κ] {a b : κ}

theorem asymm (h : a < b) : ¬ b < a := fun h' => irrefl a (trans h h')

theorem ne_of_lt (h : a < b) : a ≠ b := by
  rintro rfl
  exact irrefl a h

theorem eq_of_not_lt (h : ¬ a < b) (h' : ¬ b < a) : a = b := by
  rcases connected a b with hab | hab | hab
  · exact absurd hab h
  · exact hab
  · exact absurd hab h'

end StrictTotal

theorem eq_of_sorted_of_mem_iff {α : Type} {r : α → α → Prop} (irrefl : ∀ a, ¬ r a a)
    (trans : ∀ a b c, r a b → r b c → r a c) {l l' : List α} (hl : l.Pairwise r)
    (hl' : l'.Pairwise r) (h : ∀ a, a ∈ l ↔ a ∈ l') : l = l' := by
  have nodup : ∀ {l : List α}, l.Pairwise r → l.Nodup := by
    intro l hl
    refine hl.imp ?_
    rintro a b hab rfl
    exact irrefl a hab
  have perm : l.Perm l' := (List.perm_ext_iff_of_nodup (nodup hl) (nodup hl')).2 h
  refine List.Perm.eq_of_pairwise ?_ hl hl' perm
  intro a b _ _ hab hba
  exact absurd (trans a b a hab hba) (irrefl a)

namespace SortedMap

variable {κ ν : Type} [LT κ] [StrictTotal κ]

theorem eq_of_mem_entries {m : SortedMap κ ν} {d e : κ × ν} (hd : d ∈ m.entries)
    (he : e ∈ m.entries) (h : d.1 = e.1) : d = e := by
  obtain ⟨l, hl⟩ := m
  induction l with
  | nil => cases hd
  | cons c l ih =>
    obtain ⟨hc, hl⟩ := List.pairwise_cons.1 hl
    rcases List.mem_cons.1 hd with rfl | hd' <;> rcases List.mem_cons.1 he with rfl | he'
    · rfl
    · exact absurd h (StrictTotal.ne_of_lt (hc e he'))
    · exact absurd h.symm (StrictTotal.ne_of_lt (hc d hd'))
    · exact ih hl hd' he'

theorem ext_mem {m n : SortedMap κ ν} (h : ∀ e, e ∈ m.entries ↔ e ∈ n.entries) : m = n := by
  have heq : m.entries = n.entries :=
    eq_of_sorted_of_mem_iff (r := fun d e : κ × ν => d.1 < e.1)
      (fun e => StrictTotal.irrefl e.1) (fun _ _ _ => StrictTotal.trans) m.sorted n.sorted h
  cases m
  cases n
  cases heq
  rfl

section Lookup

variable [DecidableEq κ]

theorem get?_eq_some_iff {m : SortedMap κ ν} {k : κ} {v : ν} :
    m.get? k = some v ↔ (k, v) ∈ m.entries := by
  simp only [get?, Option.map_eq_some_iff]
  constructor
  · rintro ⟨⟨k', v'⟩, h, rfl⟩
    have hk : k' = k := by simpa using List.find?_some h
    exact hk ▸ List.mem_of_find?_eq_some h
  · intro h
    have found : (m.entries.find? fun e => decide (e.1 = k)).isSome := by
      simp only [List.find?_isSome]
      exact ⟨(k, v), h, by simp⟩
    obtain ⟨e, he⟩ := Option.isSome_iff_exists.1 found
    have hk : e.1 = k := by simpa using List.find?_some he
    have : e = (k, v) := eq_of_mem_entries (List.mem_of_find?_eq_some he) h hk
    exact ⟨e, he, by rw [this]⟩

theorem ext_get? {m n : SortedMap κ ν} (h : ∀ k, m.get? k = n.get? k) : m = n := by
  refine ext_mem ?_
  rintro ⟨k, v⟩
  rw [← get?_eq_some_iff, ← get?_eq_some_iff, h]

omit [StrictTotal κ] in
@[simp] theorem get?_empty (k : κ) : (∅ : SortedMap κ ν).get? k = none := rfl

theorem get?_erase (m : SortedMap κ ν) (k k' : κ) :
    (m.erase k).get? k' = if k' = k then none else m.get? k' := by
  apply Option.ext
  intro v
  rw [get?_eq_some_iff]
  by_cases h : k' = k
  · simp [erase, h]
  · simp [erase, h, get?_eq_some_iff]

end Lookup

section Insert

variable [DecidableLT κ]

theorem mem_insertEntry {k : κ} {v : ν} {l : List (κ × ν)} {e : κ × ν}
    (hl : l.Pairwise fun a b => a.1 < b.1) :
    e ∈ insertEntry k v l ↔ e = (k, v) ∨ e ∈ l ∧ e.1 ≠ k := by
  induction l with
  | nil => simp [insertEntry]
  | cons d l ih =>
    obtain ⟨hd, hl⟩ := List.pairwise_cons.1 hl
    simp only [insertEntry]
    split
    · rename_i hk
      have above : ∀ c ∈ d :: l, c.1 ≠ k := by
        intro c hc
        rcases List.mem_cons.1 hc with rfl | hc
        · exact (StrictTotal.ne_of_lt hk).symm
        · exact (StrictTotal.ne_of_lt (StrictTotal.trans hk (hd c hc))).symm
      rw [List.mem_cons]
      exact or_congr_right ⟨fun h => ⟨h, above e h⟩, And.left⟩
    · split
      · rename_i hk
        rw [List.mem_cons, List.mem_cons, ih hl]
        have : e = d → e.1 ≠ k := by
          rintro rfl
          exact StrictTotal.ne_of_lt hk
        tauto
      · rename_i h₁ h₂
        obtain rfl := StrictTotal.eq_of_not_lt h₁ h₂
        have above : e ∈ l → e.1 ≠ d.1 := fun h => (StrictTotal.ne_of_lt (hd e h)).symm
        rw [List.mem_cons, List.mem_cons]
        have : e = d → e.1 = d.1 := congrArg Prod.fst
        tauto

theorem get?_insert [DecidableEq κ] (m : SortedMap κ ν) (k : κ) (v : ν) (k' : κ) :
    (m.insert k v).get? k' = if k' = k then some v else m.get? k' := by
  apply Option.ext
  intro w
  rw [get?_eq_some_iff, insert, mem_insertEntry m.sorted]
  by_cases h : k' = k
  · simp [h, eq_comm]
  · simp [h, get?_eq_some_iff]

end Insert

omit [StrictTotal κ] in
theorem isEmpty_iff {m : SortedMap κ ν} : m.isEmpty = true ↔ m = ∅ := by
  obtain ⟨l, hl⟩ := m
  cases l with
  | nil => exact ⟨fun _ => rfl, fun _ => rfl⟩
  | cons e l =>
    refine ⟨fun h => (by simp [isEmpty] at h), fun h => ?_⟩
    have : e :: l = [] := congrArg entries h
    cases this

/-- Dropping what lies below and keeping what follows up to the first failure finds everything
that passes, if what passes has no gaps. -/
theorem takeWhile_dropWhile_eq_filter {α : Type} {r : α → α → Prop} {below inside : α → Bool}
    (outside : ∀ a, inside a = true → below a = false)
    (below_of_lt : ∀ a b, r a b → below b = true → below a = true)
    (inside_of_lt : ∀ a b, r a b → below a = false → inside b = true → inside a = true)
    {l : List α} (hl : l.Pairwise r) :
    (l.dropWhile below).takeWhile inside = l.filter inside := by
  induction l with
  | nil => rfl
  | cons a l ih =>
    obtain ⟨ha, hl⟩ := List.pairwise_cons.1 hl
    cases hb : below a with
    | true =>
      have : inside a = false := by
        cases hi : inside a with
        | false => rfl
        | true => simp [outside a hi] at hb
      simp [hb, this, ih hl]
    | false =>
      have above : ∀ b ∈ l, below b = false := by
        intro b hmem
        cases hb' : below b with
        | false => rfl
        | true => simp [below_of_lt a b (ha b hmem) hb'] at hb
      -- nothing behind `a` is dropped, so the induction is about `l` itself
      have rest : l.dropWhile below = l := by
        cases l with
        | nil => rfl
        | cons b l => simp [above b]
      rw [rest] at ih
      cases hi : inside a with
      | true => simp [hb, hi, ih hl]
      | false =>
        have : l.filter inside = [] := by
          simp only [List.filter_eq_nil_iff]
          intro b hmem hi'
          simp [inside_of_lt a b (ha b hmem) hb hi'] at hi
        simp [hb, hi, this]

end SortedMap

namespace SortedSet

variable {κ : Type} [LT κ] [StrictTotal κ] [DecidableLT κ]

theorem mem_toList_insert {s : SortedSet κ} {a b : κ} :
    b ∈ (SortedSet.insert s a).toList ↔ b = a ∨ b ∈ s.toList := by
  simp only [toList, SortedMap.keys, SortedSet.insert, SortedMap.insert, List.mem_map,
    SortedMap.mem_insertEntry s.sorted]
  constructor
  · rintro ⟨e, rfl | ⟨h, -⟩, rfl⟩
    · exact .inl rfl
    · exact .inr ⟨e, h, rfl⟩
  · rintro (rfl | ⟨e, h, rfl⟩)
    · exact ⟨(b, ()), .inl rfl, rfl⟩
    · by_cases hk : e.1 = a
      · exact ⟨(a, ()), .inl rfl, hk.symm⟩
      · exact ⟨e, .inr ⟨h, hk⟩, rfl⟩

theorem mem_toList_insertAll {s : SortedSet κ} {l : List κ} {b : κ} :
    b ∈ (insertAll s l).toList ↔ b ∈ l ∨ b ∈ s.toList := by
  induction l generalizing s with
  | nil => simp [insertAll]
  | cons a l ih =>
    change b ∈ (insertAll (SortedSet.insert s a) l).toList ↔ _
    rw [ih, mem_toList_insert, List.mem_cons]
    tauto

omit [StrictTotal κ] [DecidableLT κ] in
@[simp] theorem toList_empty : (∅ : SortedSet κ).toList = [] := rfl

omit [StrictTotal κ] [DecidableLT κ] in
theorem mem_toList {s : SortedSet κ} {a : κ} : a ∈ s.toList ↔ (a, ()) ∈ s.entries := by
  constructor
  · intro h
    obtain ⟨⟨_, ⟨⟩⟩, he, rfl⟩ := List.mem_map.1 h
    exact he
  · exact fun he => List.mem_map.2 ⟨_, he, rfl⟩

omit [DecidableLT κ] in
theorem ext {s t : SortedSet κ} (h : ∀ a, a ∈ s.toList ↔ a ∈ t.toList) : s = t := by
  refine SortedMap.ext_mem ?_
  rintro ⟨a, ⟨⟩⟩
  rw [← mem_toList, ← mem_toList, h]

omit [StrictTotal κ] [DecidableLT κ] in
theorem pairwise_toList (s : SortedSet κ) : s.toList.Pairwise (· < ·) :=
  List.pairwise_map.2 s.sorted

end SortedSet

namespace Bound

variable {α β : Type} [LT α] [DecidableLT α] [LT β] [DecidableLT β] {f : α → β}

theorem admitsAbove_map (h : ∀ a b, f a < f b ↔ a < b) (a : α) (lower : Bound α) :
    (lower.map f).admitsAbove (f a) = lower.admitsAbove a := by
  cases lower <;> simp [map, admitsAbove, h]

theorem admitsBelow_map (h : ∀ a b, f a < f b ↔ a < b) (a : α) (upper : Bound α) :
    (upper.map f).admitsBelow (f a) = upper.admitsBelow a := by
  cases upper <;> simp [map, admitsBelow, h]

omit [LT α] [DecidableLT α] in
theorem exists_not_lt_of_admitsAbove_map [StrictTotal β] {lower : Bound α} {b : β}
    (hb : lower ≠ .unbounded) (h : (lower.map f).admitsAbove b = true) : ∃ a, ¬ b < f a := by
  cases lower with
  | unbounded => exact absurd rfl hb
  | included a => exact ⟨a, by simpa [map, admitsAbove] using h⟩
  | excluded a => exact ⟨a, StrictTotal.asymm (by simpa [map, admitsAbove] using h)⟩

omit [LT α] [DecidableLT α] in
theorem exists_not_lt_of_admitsBelow_map [StrictTotal β] {upper : Bound α} {b : β}
    (hb : upper ≠ .unbounded) (h : (upper.map f).admitsBelow b = true) : ∃ a, ¬ f a < b := by
  cases upper with
  | unbounded => exact absurd rfl hb
  | included a => exact ⟨a, by simpa [map, admitsBelow] using h⟩
  | excluded a => exact ⟨a, StrictTotal.asymm (by simpa [map, admitsBelow] using h)⟩

end Bound

end MailIndex
