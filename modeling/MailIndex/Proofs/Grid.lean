import Mathlib.Algebra.Order.Group.Int
import Mathlib.Order.Monotone.Basic

namespace MailIndex

/-- Points on a line, in buckets numbered in order: the start of a bucket and the bucket of a point
make a Galois connection. -/
structure Grid (start index : Int → Int) : Prop where
  start_le_iff : ∀ {i t}, start i ≤ t ↔ i ≤ index t
  index_start : ∀ i, index (start i) = i

namespace Grid

variable {start index start' index' : Int → Int}

theorem of_bounds (lt_succ : ∀ i, start i < start (i + 1)) (start_le : ∀ t, start (index t) ≤ t)
    (lt_next : ∀ t, t < start (index t + 1)) : Grid start index := by
  have mono : StrictMono start := strictMono_int_of_lt_succ lt_succ
  have le_iff : ∀ {i t}, start i ≤ t ↔ i ≤ index t := by
    intro i t
    constructor
    · intro h
      have : i < index t + 1 := mono.lt_iff_lt.1 (h.trans_lt (lt_next t))
      omega
    · intro h
      exact (mono.monotone h).trans (start_le t)
  refine ⟨le_iff, fun i => ?_⟩
  have hle : index (start i) ≤ i := mono.le_iff_le.1 (start_le (start i))
  have hge : i ≤ index (start i) := le_iff.1 le_rfl
  omega

theorem multiples {unit : Int} (h : 0 < unit) : Grid (unit * ·) (· / unit) where
  start_le_iff {i t} := by
    rw [Int.le_ediv_iff_mul_le h, Int.mul_comm]
  index_start i := Int.mul_ediv_cancel_left i h.ne'

theorem comp (outer : Grid start index) (inner : Grid start' index') :
    Grid (start ∘ start') (index' ∘ index) where
  start_le_iff := outer.start_le_iff.trans inner.start_le_iff
  index_start i := by
    simp only [Function.comp_apply, outer.index_start, inner.index_start]

variable (g : Grid start index)
include g

theorem start_mono {i j : Int} (h : i ≤ j) : start i ≤ start j := by
  rwa [g.start_le_iff, g.index_start]

theorem lt_start_iff {i t : Int} : t < start i ↔ index t < i := by
  rw [← Int.not_le, g.start_le_iff, Int.not_le]

theorem start_lt_start_iff {i j : Int} : start i < start j ↔ i < j := by
  rw [g.lt_start_iff, g.index_start]

theorem start_inj {i j : Int} : start i = start j ↔ i = j :=
  (Function.LeftInverse.injective g.index_start).eq_iff

theorem start_index_le (t : Int) : start (index t) ≤ t := g.start_le_iff.2 (Int.le_refl _)

theorem index_mono {s t : Int} (h : s ≤ t) : index s ≤ index t :=
  g.start_le_iff.1 ((g.start_index_le s).trans h)

theorem index_eq_iff {i t : Int} : index t = i ↔ start i ≤ t ∧ t < start (i + 1) := by
  rw [g.start_le_iff, g.lt_start_iff]
  omega

theorem bucket_within {lo hi t : Int} (hlo : ∃ i, start i = lo) (hhi : ∃ j, start j = hi)
    (h : lo ≤ t ∧ t < hi) : lo ≤ start (index t) ∧ start (index t + 1) ≤ hi := by
  obtain ⟨i, rfl⟩ := hlo
  obtain ⟨j, rfl⟩ := hhi
  exact ⟨g.start_mono (g.start_le_iff.1 h.1), g.start_mono (g.lt_start_iff.1 h.2)⟩

theorem index_start_index (g' : Grid start' index') (h : ∀ i, ∃ j, start j = start' i) (t : Int) :
    index' (start (index t)) = index' t := by
  obtain ⟨j, hj⟩ := h (index' t)
  have hle : start j ≤ t := hj ▸ g'.start_index_le t
  have hge : index' t ≤ index' (start (index t)) :=
    g'.start_le_iff.1 (hj ▸ g.start_mono (g.start_le_iff.1 hle))
  exact Int.le_antisymm (g'.index_mono (g.start_index_le t)) hge

end Grid

end MailIndex
