import MailIndex.Regex.Basic

namespace MailIndex

namespace Cursor

def Passes (c : Cursor) (w : Bytes) (d : Cursor) : Prop :=
  c.after = w ++ d.after ∧ d.before = w.reverse ++ c.before

@[simp] theorem passes_nil {c d : Cursor} : c.Passes [] d ↔ d = c := by
  obtain ⟨before, after⟩ := c
  obtain ⟨before', after'⟩ := d
  simp only [Passes, List.nil_append, List.reverse_nil, Cursor.mk.injEq]
  constructor
  · rintro ⟨rfl, rfl⟩
    exact ⟨rfl, rfl⟩
  · rintro ⟨rfl, rfl⟩
    exact ⟨rfl, rfl⟩

theorem passes_append {c d : Cursor} {v w : Bytes} :
    c.Passes (v ++ w) d ↔ ∃ e, c.Passes v e ∧ e.Passes w d := by
  constructor
  · rintro ⟨hafter, hbefore⟩
    refine ⟨⟨v.reverse ++ c.before, w ++ d.after⟩, ⟨?_, rfl⟩, rfl, ?_⟩
    · rw [hafter, List.append_assoc]
    · rw [hbefore, List.reverse_append, List.append_assoc]
  · rintro ⟨e, ⟨hafter, hbefore⟩, hafter', hbefore'⟩
    refine ⟨?_, ?_⟩
    · rw [hafter, hafter', List.append_assoc]
    · rw [hbefore', hbefore, List.reverse_append, List.append_assoc]

theorem mem_onward {before text : Bytes} {c : Cursor} :
    c ∈ onward before text ↔ ∃ w, Cursor.Passes ⟨before, text⟩ w c := by
  induction text generalizing before with
  | nil =>
    rw [onward, List.mem_singleton]
    constructor
    · rintro rfl
      exact ⟨[], passes_nil.2 rfl⟩
    · rintro ⟨w, hafter, hbefore⟩
      obtain ⟨rfl, hnil⟩ := List.append_eq_nil_iff.1 hafter.symm
      exact passes_nil.1 ⟨hafter, hbefore⟩
  | cons b text ih =>
    have first : Cursor.Passes ⟨before, b :: text⟩ [b] ⟨b :: before, text⟩ := ⟨rfl, rfl⟩
    rw [onward, List.mem_cons, ih]
    constructor
    · rintro (rfl | ⟨w, hw⟩)
      · exact ⟨[], passes_nil.2 rfl⟩
      · exact ⟨[b] ++ w, passes_append.2 ⟨_, first, hw⟩⟩
    · rintro ⟨w, hw⟩
      cases w with
      | nil => exact .inl (passes_nil.1 hw)
      | cons x w =>
        obtain ⟨hafter, hbefore⟩ := hw
        obtain ⟨rfl, rfl⟩ := List.cons.inj hafter
        exact .inr ⟨w, rfl, by simpa using hbefore⟩

end Cursor

namespace Regex

section Within

variable (step : Cursor → List Cursor)

def Steps : Nat → Cursor → Cursor → Prop
  | 0, c, d => c = d
  | n + 1, c, d => ∃ e ∈ step c, Steps n e d

def found (seen fresh : List Cursor) : List Cursor :=
  ((fresh.flatMap step).filter fun c => ! seen.contains c).eraseDups

/-- Only what the last round has found can lead to more. -/
def Explored (seen fresh : List Cursor) : Prop :=
  ∀ c ∈ seen, c ∈ fresh ∨ ∀ d ∈ step c, d ∈ seen

variable {step} {seen fresh : List Cursor} {c d : Cursor}

theorem mem_found : d ∈ found step seen fresh ↔ (∃ c ∈ fresh, d ∈ step c) ∧ d ∉ seen := by
  simp [found]

theorem within_nil (n : Nat) : within step n seen [] = seen := by
  cases n <;> rfl

theorem within_succ (n : Nat) :
    within step (n + 1) seen fresh =
      within step n (seen ++ found step seen fresh) (found step seen fresh) := by
  rw [within]
  change (if (found step seen fresh).isEmpty then _ else _) = _
  split
  · rename_i h
    rw [List.isEmpty_iff.1 h, within_nil, List.append_nil]
  · rfl

theorem Explored.mem_of_mem_step (h : Explored step seen fresh) (hc : c ∈ seen)
    (hd : d ∈ step c) : d ∈ seen ++ found step seen fresh := by
  rw [List.mem_append]
  by_cases hseen : d ∈ seen
  · exact .inl hseen
  · rcases h c hc with hfresh | hclosed
    · exact .inr (mem_found.2 ⟨⟨c, hfresh, hd⟩, hseen⟩)
    · exact .inl (hclosed d hd)

theorem Explored.next (h : Explored step seen fresh) :
    Explored step (seen ++ found step seen fresh) (found step seen fresh) := by
  intro c hc
  rcases List.mem_append.1 hc with hc | hc
  · exact .inr fun d hd => h.mem_of_mem_step hc hd
  · exact .inl hc

theorem mem_within_of_mem_seen {n : Nat} (h : d ∈ seen) : d ∈ within step n seen fresh := by
  induction n generalizing seen fresh with
  | zero => exact h
  | succ n ih =>
    rw [within_succ]
    exact ih (List.mem_append_left _ h)

theorem Explored.mem_within {n k : Nat} (h : Explored step seen fresh) (hc : c ∈ seen)
    (hk : k ≤ n) (hsteps : Steps step k c d) : d ∈ within step n seen fresh := by
  induction n generalizing k seen fresh c with
  | zero =>
    obtain rfl := Nat.le_zero.1 hk
    cases hsteps
    exact hc
  | succ n ih =>
    cases k with
    | zero =>
      cases hsteps
      exact mem_within_of_mem_seen hc
    | succ k =>
      obtain ⟨e, he, hsteps⟩ := hsteps
      rw [within_succ]
      exact ih h.next (h.mem_of_mem_step hc he) (Nat.le_of_succ_le_succ hk) hsteps

theorem exists_steps_of_mem_within {n : Nat} (h : d ∈ within step n seen fresh) :
    d ∈ seen ∨ ∃ c ∈ fresh, ∃ k ≤ n, Steps step k c d := by
  induction n generalizing seen fresh with
  | zero => exact .inl h
  | succ n ih =>
    rw [within_succ] at h
    rcases ih h with h | ⟨e, he, k, hk, hsteps⟩
    · rcases List.mem_append.1 h with h | h
      · exact .inl h
      · obtain ⟨⟨c, hc, hd⟩, -⟩ := mem_found.1 h
        exact .inr ⟨c, hc, 1, by omega, d, hd, rfl⟩
    · obtain ⟨⟨c, hc, hstep⟩, -⟩ := mem_found.1 he
      exact .inr ⟨c, hc, k + 1, by omega, e, hstep, hsteps⟩

theorem mem_within_iff {n : Nat} :
    d ∈ within step n [c] [c] ↔ ∃ k ≤ n, Steps step k c d := by
  constructor
  · intro h
    rcases exists_steps_of_mem_within h with h | ⟨e, he, k, hk, hsteps⟩
    · exact ⟨0, Nat.zero_le n, (List.mem_singleton.1 h).symm⟩
    · cases List.mem_singleton.1 he
      exact ⟨k, hk, hsteps⟩
  · rintro ⟨k, hk, hsteps⟩
    have h : Explored step [c] [c] := fun e he => .inl he
    exact h.mem_within (List.mem_singleton_self c) hk hsteps

end Within

/-- A match is one of these texts, wherever it stands. -/
def Denotes (r : Regex) (texts : Bytes → Prop) : Prop :=
  ∀ c d, d ∈ r.ends c ↔ ∃ w, texts w ∧ c.Passes w d

section Denotes

variable {r q : Regex} {v w : Bytes → Prop}

theorem Denotes.congr (h : r.Denotes v) (hvw : ∀ x, v x ↔ w x) : r.Denotes w := by
  intro c d
  simp only [h c d, hvw]

theorem denotes_empty : empty.Denotes (· = []) := by
  intro c d
  simp [ends]

theorem denotes_octet (set : Text.Bands) :
    (octet set).Denotes fun w => ∃ b : UInt8, Text.inBands set b.toNat = true ∧ w = [b] := by
  rintro ⟨before, after⟩ d
  cases after with
  | nil =>
    rw [ends]
    constructor
    · intro h
      cases h
    · rintro ⟨w, ⟨b, -, rfl⟩, hafter, -⟩
      cases hafter
  | cons b rest =>
    have hpasses : ∀ x, Cursor.Passes ⟨before, b :: rest⟩ [x] d ↔
        x = b ∧ d = ⟨b :: before, rest⟩ := by
      intro x
      obtain ⟨before', after'⟩ := d
      simp only [Cursor.Passes, List.singleton_append, List.reverse_singleton, List.cons.injEq,
        Cursor.mk.injEq]
      constructor
      · rintro ⟨⟨rfl, rfl⟩, rfl⟩
        exact ⟨rfl, rfl, rfl⟩
      · rintro ⟨rfl, rfl, rfl⟩
        exact ⟨⟨rfl, rfl⟩, rfl⟩
    simp only [ends]
    split
    · rename_i hb
      rw [List.mem_singleton]
      constructor
      · rintro rfl
        exact ⟨[b], ⟨b, hb, rfl⟩, (hpasses b).2 ⟨rfl, rfl⟩⟩
      · rintro ⟨w, ⟨x, -, rfl⟩, hx⟩
        exact ((hpasses x).1 hx).2
    · rename_i hb
      constructor
      · intro h
        cases h
      · rintro ⟨w, ⟨x, hset, rfl⟩, hx⟩
        exact absurd (((hpasses x).1 hx).1 ▸ hset) hb

theorem Denotes.seq (h : r.Denotes v) (h' : q.Denotes w) :
    (Regex.seq r q).Denotes fun x => ∃ a b, v a ∧ w b ∧ x = a ++ b := by
  intro c d
  simp only [ends, List.mem_eraseDups, List.mem_flatMap, h c, h' _ d]
  constructor
  · rintro ⟨e, ⟨a, ha, hca⟩, b, hb, hbd⟩
    exact ⟨a ++ b, ⟨a, b, ha, hb, rfl⟩, Cursor.passes_append.2 ⟨e, hca, hbd⟩⟩
  · rintro ⟨x, ⟨a, b, ha, hb, rfl⟩, hx⟩
    obtain ⟨e, hca, hbd⟩ := Cursor.passes_append.1 hx
    exact ⟨e, ⟨a, ha, hca⟩, b, hb, hbd⟩

theorem inBands_single (n m : Nat) : Text.inBands (Text.Bands.single n) m = true ↔ m = n := by
  simp only [Text.inBands, Text.Bands.single, List.takeWhile_cons, List.takeWhile_nil]
  by_cases h : n ≤ m
  · by_cases h' : n + 1 ≤ m
    · simp [h, h']
      omega
    · simp [h, h']
      omega
  · simp [h]
    omega

theorem denotes_literal (bytes : Bytes) : (literal bytes).Denotes (· = bytes) := by
  induction bytes with
  | nil => exact denotes_empty
  | cons b bytes ih =>
    refine ((denotes_octet _).seq ih).congr fun x => ?_
    simp only [inBands_single, UInt8.toNat_inj]
    constructor
    · rintro ⟨_, _, ⟨x, rfl, rfl⟩, rfl, rfl⟩
      rfl
    · rintro rfl
      exact ⟨[b], bytes, ⟨b, rfl, rfl⟩, rfl, rfl⟩

theorem denotes_sequence_literals (bytes : Bytes) {rest : List Regex}
    (h : (sequence rest).Denotes w) :
    (sequence (bytes.map (fun b => literal [b]) ++ rest)).Denotes
      fun x => ∃ y, w y ∧ x = bytes ++ y := by
  induction bytes with
  | nil => exact h.congr fun x => by simp
  | cons b bytes ih =>
    refine ((denotes_literal [b]).seq ih).congr fun x => ?_
    constructor
    · rintro ⟨_, _, rfl, ⟨y, hy, rfl⟩, rfl⟩
      exact ⟨y, hy, rfl⟩
    · rintro ⟨y, hy, rfl⟩
      exact ⟨[b], bytes ++ y, rfl, ⟨y, hy, rfl⟩, rfl⟩

theorem steps_octet_iff {set : Text.Bands} (hset : ∀ b : UInt8, Text.inBands set b.toNat = true)
    {k : Nat} {c d : Cursor} :
    Steps (fun c => (octet set).ends c) k c d ↔ ∃ w : Bytes, w.length = k ∧ c.Passes w d := by
  induction k generalizing c with
  | zero =>
    simp only [Steps, List.length_eq_zero_iff]
    constructor
    · rintro rfl
      exact ⟨[], rfl, Cursor.passes_nil.2 rfl⟩
    · rintro ⟨w, rfl, hw⟩
      exact (Cursor.passes_nil.1 hw).symm
  | succ k ih =>
    simp only [Steps, denotes_octet set c, ih]
    constructor
    · rintro ⟨e, ⟨_, ⟨b, -, rfl⟩, hb⟩, w, rfl, hw⟩
      exact ⟨[b] ++ w, by simp, Cursor.passes_append.2 ⟨e, hb, hw⟩⟩
    · rintro ⟨w, hk, hw⟩
      cases w with
      | nil => cases hk
      | cons b w =>
        have happend : c.Passes ([b] ++ w) d := hw
        obtain ⟨e, hb, hw⟩ := Cursor.passes_append.1 happend
        exact ⟨e, ⟨[b], ⟨b, hset b, rfl⟩, hb⟩, w, Nat.succ.inj hk, hw⟩

theorem denotes_any {set : Text.Bands} (hset : ∀ b : UInt8, Text.inBands set b.toNat = true) :
    (times (octet set) 0 none).Denotes fun _ => True := by
  intro c d
  change d ∈ within _ (c.after.length + 1) [c] [c] ↔ _
  rw [mem_within_iff]
  simp only [steps_octet_iff hset, true_and]
  constructor
  · rintro ⟨_, -, w, -, hw⟩
    exact ⟨w, hw⟩
  · rintro ⟨w, hw⟩
    refine ⟨w.length, ?_, w, rfl, hw⟩
    have := congrArg List.length hw.1
    rw [List.length_append] at this
    omega

theorem isMatch_textStart (h : r.Denotes w) (unicode : Bool) (text : Bytes) :
    (Regex.seq (place .textStart unicode) r).isMatch text = true ↔ ∃ x, w x ∧ x <+: text := by
  have hends : ∀ c d, d ∈ (Regex.seq (place .textStart unicode) r).ends c ↔
      c.before = [] ∧ ∃ x, w x ∧ c.Passes x d := by
    intro c d
    simp only [ends, List.mem_eraseDups, List.mem_flatMap]
    by_cases hc : c.before = [] <;> simp [Place.holds, hc, h _ d]
  simp only [isMatch, List.any_eq_true, Bool.not_eq_true', List.isEmpty_eq_false_iff_exists_mem,
    hends, Cursor.places, Cursor.mem_onward]
  constructor
  · rintro ⟨c, ⟨y, hafter, hbefore⟩, d, hempty, x, hx, hpasses⟩
    rw [hempty] at hbefore
    obtain rfl : y = [] := by simpa using hbefore.symm
    exact ⟨x, hx, d.after, hpasses.1.symm.trans hafter.symm⟩
  · rintro ⟨x, hx, rest, rfl⟩
    exact ⟨⟨[], x ++ rest⟩, ⟨[], Cursor.passes_nil.2 rfl⟩, ⟨x.reverse, rest⟩, rfl, x, hx, rfl,
      (List.append_nil _).symm⟩

end Denotes

end Regex

end MailIndex
