import MailIndex.Bytes

namespace MailIndex

class StrictTotal (κ : Type) [LT κ] : Prop where
  irrefl : ∀ a : κ, ¬ a < a
  trans : ∀ {a b c : κ}, a < b → b < c → a < c
  connected : ∀ a b : κ, a < b ∨ a = b ∨ b < a

instance : StrictTotal Bytes where
  irrefl := List.lt_irrefl
  trans := List.lt_trans
  connected a b := by
    by_cases h₁ : a < b
    · exact .inl h₁
    · by_cases h₂ : b < a
      · exact .inr (.inr h₂)
      · exact .inr (.inl (Std.Trichotomous.trichotomous a b h₁ h₂))

instance : StrictTotal String where
  irrefl := Std.Irrefl.irrefl
  trans := Trans.trans
  connected a b := by
    by_cases h₁ : a < b
    · exact .inl h₁
    · by_cases h₂ : b < a
      · exact .inr (.inr h₂)
      · exact .inr (.inl (Std.Trichotomous.trichotomous a b h₁ h₂))

instance : StrictTotal UInt64 where
  irrefl a := by simp
  trans h₁ h₂ := UInt64.lt_trans h₁ h₂
  connected a b := by
    rcases Nat.lt_trichotomy a.toNat b.toNat with h | h | h
    · exact .inl (UInt64.lt_iff_toNat_lt.2 h)
    · exact .inr (.inl (UInt64.toNat.inj h))
    · exact .inr (.inr (UInt64.lt_iff_toNat_lt.2 h))

theorem StrictTotal.ofKey {α κ : Type} [LT α] [LT κ] [StrictTotal κ] (key : α → κ)
    (lt_iff : ∀ a b, a < b ↔ key a < key b) (inj : ∀ a b, key a = key b → a = b) :
    StrictTotal α where
  irrefl a h := irrefl _ ((lt_iff a a).1 h)
  trans h₁ h₂ := (lt_iff _ _).2 (trans ((lt_iff _ _).1 h₁) ((lt_iff _ _).1 h₂))
  connected a b := by
    rcases connected (key a) (key b) with h | h | h
    · exact .inl ((lt_iff _ _).2 h)
    · exact .inr (.inl (inj _ _ h))
    · exact .inr (.inr ((lt_iff _ _).2 h))

structure SortedMap (κ ν : Type) [LT κ] where
  entries : List (κ × ν)
  sorted : entries.Pairwise (fun a b => a.1 < b.1)

namespace SortedMap

variable {κ ν : Type} [LT κ]

def empty : SortedMap κ ν := ⟨[], .nil⟩

instance : EmptyCollection (SortedMap κ ν) := ⟨empty⟩

instance : Inhabited (SortedMap κ ν) := ⟨empty⟩

def keys (m : SortedMap κ ν) : List κ := m.entries.map (·.1)

def size (m : SortedMap κ ν) : Nat := m.entries.length

def isEmpty (m : SortedMap κ ν) : Bool := m.entries.isEmpty

def get? [DecidableEq κ] (m : SortedMap κ ν) (k : κ) : Option ν :=
  (m.entries.find? fun e => decide (e.1 = k)).map (·.2)

section Insert

variable [DecidableLT κ]

def insertEntry (k : κ) (v : ν) : List (κ × ν) → List (κ × ν)
  | [] => [(k, v)]
  | e :: rest =>
    if k < e.1 then (k, v) :: e :: rest
    else if e.1 < k then e :: insertEntry k v rest
    else (k, v) :: rest

theorem fst_of_mem_insertEntry {k : κ} {v : ν} {l : List (κ × ν)} {e : κ × ν}
    (h : e ∈ insertEntry k v l) : e.1 = k ∨ e ∈ l := by
  induction l with
  | nil => simp_all [insertEntry]
  | cons d l ih =>
    simp only [insertEntry] at h
    split at h
    · rcases List.mem_cons.1 h with rfl | h <;> simp_all
    · split at h
      · rcases List.mem_cons.1 h with rfl | h
        · simp
        · rcases ih h with h | h <;> simp [h]
      · rcases List.mem_cons.1 h with rfl | h <;> simp_all

theorem pairwise_insertEntry [StrictTotal κ] (k : κ) (v : ν) {l : List (κ × ν)}
    (h : l.Pairwise (fun a b => a.1 < b.1)) :
    (insertEntry k v l).Pairwise (fun a b => a.1 < b.1) := by
  induction l with
  | nil => simp [insertEntry]
  | cons d l ih =>
    obtain ⟨hd, hl⟩ := List.pairwise_cons.1 h
    simp only [insertEntry]
    split
    · rename_i hk
      refine List.pairwise_cons.2 ⟨fun e he => ?_, h⟩
      rcases List.mem_cons.1 he with rfl | he
      · exact hk
      · exact StrictTotal.trans hk (hd e he)
    · split
      · rename_i hk
        refine List.pairwise_cons.2 ⟨fun e he => ?_, ih hl⟩
        rcases fst_of_mem_insertEntry he with he | he
        · exact he ▸ hk
        · exact hd e he
      · rename_i h₁ h₂
        have hk : k = d.1 := by
          rcases StrictTotal.connected k d.1 with h | h | h
          · exact absurd h h₁
          · exact h
          · exact absurd h h₂
        exact List.pairwise_cons.2 ⟨fun e he => hk ▸ hd e he, hl⟩

def insert [StrictTotal κ] (m : SortedMap κ ν) (k : κ) (v : ν) : SortedMap κ ν :=
  ⟨insertEntry k v m.entries, pairwise_insertEntry k v m.sorted⟩

def ofList [StrictTotal κ] (l : List (κ × ν)) : SortedMap κ ν :=
  l.foldl (fun m e => m.insert e.1 e.2) ∅

end Insert

def erase [DecidableEq κ] (m : SortedMap κ ν) (k : κ) : SortedMap κ ν :=
  ⟨m.entries.filter fun e => decide (e.1 ≠ k), m.sorted.filter _⟩

end SortedMap

abbrev SortedSet (κ : Type) [LT κ] := SortedMap κ Unit

namespace SortedSet

variable {κ : Type} [LT κ] [DecidableLT κ] [StrictTotal κ]

def insert (s : SortedSet κ) (a : κ) : SortedSet κ := SortedMap.insert s a ()

def insertAll (s : SortedSet κ) (l : List κ) : SortedSet κ := l.foldl insert s

def ofList (l : List κ) : SortedSet κ := insertAll ∅ l

omit [DecidableLT κ] [StrictTotal κ] in
def toList (s : SortedSet κ) : List κ := s.keys

end SortedSet

inductive Bound (α : Type)
  | unbounded
  | included : α → Bound α
  | excluded : α → Bound α
  deriving DecidableEq, Repr

namespace Bound

variable {α β : Type}

def map (f : α → β) : Bound α → Bound β
  | .unbounded => .unbounded
  | .included a => .included (f a)
  | .excluded a => .excluded (f a)

def admitsAbove [LT α] [DecidableLT α] (a : α) : Bound α → Bool
  | .unbounded => true
  | .included l => ! decide (a < l)
  | .excluded l => decide (l < a)

def admitsBelow [LT α] [DecidableLT α] (a : α) : Bound α → Bool
  | .unbounded => true
  | .included u => ! decide (u < a)
  | .excluded u => decide (a < u)

end Bound

end MailIndex
