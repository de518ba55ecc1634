import MailIndex.Index
import MailIndex.Proofs.DateBucket
import MailIndex.Proofs.IdRange
import MailIndex.Proofs.Postings

namespace MailIndex

def Posting.flags : Posting := ⟨.flags, .empty⟩

theorem Index.mem_storable {ps : Postings} {p : Posting} :
    p ∈ storable ps ↔ p ∈ ps.toList ∧ p.field ≠ .flags := by
  simp [storable]

theorem Index.flags_not_mem_storable (ps : Postings) : Posting.flags ∉ storable ps :=
  fun h => (mem_storable.1 h).2 rfl

/-- What was stored of a message since it was last deleted. -/
structure LiveMessage where
  flags : MessageFlags
  postings : Postings
  field_ne_flags : ∀ p ∈ postings.toList, p.field ≠ .flags

namespace LiveMessage

def HasTerm (msg : LiveMessage) (f : Field) (t : Term) : Prop := ⟨f, t⟩ ∈ msg.postings.toList

def HasTermWith (msg : LiveMessage) (f : Field) (needle : Term) : Prop :=
  ∃ t, msg.HasTerm f t ∧ needle.bytes <:+: t.bytes

def WellDated (msg : LiveMessage) : Prop :=
  ∀ t, msg.HasTerm .sentDate t → ∃ s, t = .sentDate s

def value? (msg : LiveMessage) (p : Posting) : Option Bytes :=
  if p = .flags then some msg.flags.encodeBytes
  else if p ∈ msg.postings.toList then some Index.presence
  else none

theorem mem_insertAll_filter {old ps : Postings} {p : Posting} :
    p ∈ (SortedSet.insertAll old (ps.toList.filter fun p => p.field ≠ .flags)).toList ↔
      (p ∈ ps.toList ∧ p.field ≠ .flags) ∨ p ∈ old.toList := by
  rw [SortedSet.mem_toList_insertAll, List.mem_filter, decide_eq_true_iff]

theorem field_ne_flags_insertAll {old : Postings} (hold : ∀ p ∈ old.toList, p.field ≠ .flags)
    (ps : Postings) :
    ∀ p ∈ (SortedSet.insertAll old (ps.toList.filter fun p => p.field ≠ .flags)).toList,
      p.field ≠ .flags :=
  fun p hp => (mem_insertAll_filter.1 hp).elim (·.2) (hold p)

def stored (old : Option LiveMessage) (flags : MessageFlags) (ps : Postings) : LiveMessage :=
  match old with
  | none =>
    ⟨flags, SortedSet.insertAll ∅ (ps.toList.filter fun p => p.field ≠ .flags),
      field_ne_flags_insertAll (by simp) ps⟩
  | some msg =>
    ⟨flags, SortedSet.insertAll msg.postings (ps.toList.filter fun p => p.field ≠ .flags),
      field_ne_flags_insertAll msg.field_ne_flags ps⟩

def reflagged (flags : MessageFlags) (old : Option LiveMessage) : Option LiveMessage :=
  old.map fun msg => { msg with flags }

theorem reflagged_reflagged (flags : MessageFlags) (old : Option LiveMessage) :
    reflagged flags (reflagged flags old) = reflagged flags old := by
  cases old <;> rfl

theorem mem_postings_stored {old : Option LiveMessage} {flags : MessageFlags} {ps : Postings}
    {p : Posting} :
    p ∈ (stored old flags ps).postings.toList ↔
      (p ∈ ps.toList ∧ p.field ≠ .flags) ∨ ∃ msg, old = some msg ∧ p ∈ msg.postings.toList := by
  cases old with
  | none => exact mem_insertAll_filter.trans (or_congr_right (by simp))
  | some msg => exact mem_insertAll_filter.trans (or_congr_right (by simp))

theorem WellDated.stored {old : Option LiveMessage} (hold : ∀ msg, old = some msg → msg.WellDated)
    (flags : MessageFlags) {ps : Postings}
    (hps : ∀ t ∈ ps.termsOf .sentDate, ∃ s, t = .sentDate s) :
    (stored old flags ps).WellDated := by
  intro t ht
  rcases mem_postings_stored.1 ht with ⟨ht, -⟩ | ⟨msg, hmsg, ht⟩
  · exact hps t (Postings.mem_termsOf.2 ht)
  · exact hold msg hmsg t ht

theorem WellDated.reflagged {old : Option LiveMessage}
    (hold : ∀ msg, old = some msg → msg.WellDated) (flags : MessageFlags) {msg : LiveMessage}
    (hmsg : reflagged flags old = some msg) : msg.WellDated := by
  obtain ⟨msg', hmsg', rfl⟩ := Option.map_eq_some_iff.1 hmsg
  exact hold msg' hmsg'

theorem value?_flags (msg : LiveMessage) : msg.value? .flags = some msg.flags.encodeBytes :=
  if_pos rfl

theorem value?_stored (old : Option LiveMessage) (flags : MessageFlags) (ps : Postings)
    (p : Posting) :
    (stored old flags ps).value? p =
      if p ∈ ps.toList ∧ p.field ≠ .flags then some Index.presence
      else if p = .flags then some flags.encodeBytes
      else old.bind fun msg => msg.value? p := by
  by_cases hp : p = .flags
  · rw [hp, value?_flags, if_neg fun h => h.2 rfl, if_pos rfl]
    cases old <;> rfl
  · rw [value?, if_neg hp, if_neg hp]
    by_cases hps : p ∈ ps.toList ∧ p.field ≠ .flags
    · rw [if_pos (mem_postings_stored.2 (.inl hps)), if_pos hps]
    · rw [if_neg hps, if_congr (mem_postings_stored.trans (or_iff_right hps)) rfl rfl]
      cases old with
      | none => simp
      | some msg => simp [value?, hp]

theorem value?_eq_some_iff {msg : LiveMessage} {p : Posting} {value : Bytes} :
    msg.value? p = some value ↔
      p = .flags ∧ value = msg.flags.encodeBytes ∨
        p ∈ msg.postings.toList ∧ value = Index.presence := by
  have hflags : Posting.flags ∉ msg.postings.toList := fun h => msg.field_ne_flags _ h rfl
  rw [value?]
  by_cases hp : p = .flags
  · simp [hp, hflags, eq_comm]
  · by_cases hmem : p ∈ msg.postings.toList <;> simp [hp, hmem, eq_comm]

end LiveMessage

abbrev Messages := MailboxId → MessageId → Option LiveMessage

namespace Messages

def none : Messages := fun _ _ => .none

def change (T : Messages) (m : MailboxId) (among : MessageId → Prop) [DecidablePred among]
    (f : Option LiveMessage → Option LiveMessage) : Messages :=
  fun m' id => if m' = m ∧ among id then f (T m' id) else T m' id

theorem change_congr (T : Messages) (m : MailboxId) {among among' : MessageId → Prop}
    [DecidablePred among] [DecidablePred among'] (h : ∀ id, among id ↔ among' id)
    (f : Option LiveMessage → Option LiveMessage) : T.change m among f = T.change m among' f :=
  funext fun _ => funext fun id => if_congr (and_congr_right fun _ => h id) rfl rfl

theorem foldl_change (T : Messages) (m : MailboxId) {f : Option LiveMessage → Option LiveMessage}
    (hf : ∀ old, f (f old) = f old) (ids : List MessageId) :
    ids.foldl (fun T id => T.change m (· = id) f) T = T.change m (· ∈ ids) f := by
  induction ids generalizing T with
  | nil =>
    funext m' id
    exact (if_neg fun h => List.not_mem_nil h.2).symm
  | cons id ids ih =>
    rw [List.foldl_cons, ih]
    funext m' id'
    simp only [change, List.mem_cons]
    by_cases hid : id' = id
    · -- `id` may come again among `ids`; then `hf` applies
      by_cases hm : m' = m <;> simp [hm, hid, hf]
    · simp [hid]

theorem foldl_change_allIds (T : Messages) (m : MailboxId)
    {f : Option LiveMessage → Option LiveMessage} (hf : ∀ old, f (f old) = f old)
    (ranges : List IdRange) :
    (IdRange.allIds ranges).foldl (fun T id => T.change m (· = id) f) T =
      T.change m (fun id => ∃ r ∈ ranges, id ∈ r) f :=
  (T.foldl_change m hf _).trans (T.change_congr m (fun _ => IdRange.mem_allIds) f)

def WellDated (T : Messages) : Prop := ∀ m id msg, T m id = some msg → msg.WellDated

theorem WellDated.change {T : Messages} (h : T.WellDated) (m : MailboxId)
    {among : MessageId → Prop} {_ : DecidablePred among}
    {f : Option LiveMessage → Option LiveMessage}
    (hf : ∀ id msg, f (T m id) = some msg → msg.WellDated) : (T.change m among f).WellDated := by
  intro m' id msg hmsg
  rw [Messages.change] at hmsg
  split at hmsg
  · rename_i hid
    obtain ⟨rfl, -⟩ := hid
    exact hf id msg hmsg
  · exact h m' id msg hmsg

end Messages

inductive Operation
  | store (m : MailboxId) (id : MessageId) (flags : MessageFlags) (ps : Postings)
  | updateFlags (m : MailboxId) (id : MessageId) (flags : MessageFlags)
  | updateFlagsMany (m : MailboxId) (ranges : List IdRange) (flags : MessageFlags)
  | delete (m : MailboxId) (id : MessageId)
  | deleteMany (m : MailboxId) (ranges : List IdRange)

namespace Operation

def run {σ : Type} [RowStore σ] (s : σ) : Operation → σ
  | store m id flags ps => ((Index.store m id flags ps).run s).2
  | updateFlags m id flags => ((Index.updateFlags m id flags).run s).2
  | updateFlagsMany m ranges flags => ((Index.updateFlagsMany m ranges flags).run s).2
  | delete m id => ((Index.delete m id).run s).2
  | deleteMany m ranges => ((Index.deleteMany m ranges).run s).2

def apply (T : Messages) : Operation → Messages
  | store m id flags ps =>
    T.change m (· = id) fun old => some (LiveMessage.stored old flags ps)
  | updateFlags m id flags => T.change m (· = id) (LiveMessage.reflagged flags)
  | updateFlagsMany m ranges flags =>
    T.change m (fun id => ∃ r ∈ ranges, id ∈ r) (LiveMessage.reflagged flags)
  | delete m id => T.change m (· = id) fun _ => none
  | deleteMany m ranges => T.change m (fun id => ∃ r ∈ ranges, id ∈ r) fun _ => none

def WellDated : Operation → Prop
  | store _ _ _ ps => ∀ t ∈ ps.termsOf .sentDate, ∃ s, t = .sentDate s
  | _ => True

def Deletes (m : MailboxId) (id : MessageId) : Operation → Prop
  | delete m' id' => m' = m ∧ id' = id
  | deleteMany m' ranges => m' = m ∧ ∃ r ∈ ranges, id ∈ r
  | _ => False

def runAll {σ : Type} [RowStore σ] (s : σ) (ops : List Operation) : σ := ops.foldl run s

def replay (ops : List Operation) : Messages := ops.foldl apply .none

theorem WellDated.apply {op : Operation} (hop : op.WellDated) {T : Messages} (h : T.WellDated) :
    (op.apply T).WellDated := by
  cases op with rw [Operation.apply]
  | store m id flags ps =>
    refine h.change m fun id msg hmsg => ?_
    cases hmsg
    exact .stored (h m id) flags hop
  | updateFlags m id flags => exact h.change m fun id _ => .reflagged (h m id) flags
  | updateFlagsMany m ranges flags => exact h.change m fun id _ => .reflagged (h m id) flags
  | delete m id => exact h.change m fun _ _ => nofun
  | deleteMany m ranges => exact h.change m fun _ _ => nofun

theorem wellDated_replay {ops : List Operation} (hops : ∀ op ∈ ops, op.WellDated) :
    (replay ops).WellDated := by
  have hnone : Messages.none.WellDated := nofun
  exact List.foldlRecOn (motive := Messages.WellDated) ops Operation.apply hnone
    fun _ hT op hop => (hops op hop).apply hT

end Operation

namespace Criterion

def IsBlank (value : String) : Prop := Text.trim value.toList = []

/-- Whether a message meets a criterion; those that are not supported are never met. -/
def Meets (msg : LiveMessage) : Criterion → Prop
  | .all => True
  | .text value scope =>
    IsBlank value ∨ ∃ f ∈ Query.scopeFields scope, ∃ t ∈ Query.terms value, msg.HasTermWith f t
  | .headerContains name value => msg.HasTermWith (.ofHeader name) (.ofText value)
  | .headerExists name => ∃ t, msg.HasTerm (.ofHeader name) t
  | .headerAddress name value =>
    (IsBlank value ∧ ∃ t, msg.HasTerm (.ofHeader name) t) ∨
      ∃ t ∈ Query.terms value, msg.HasTermWith (.ofHeader name) t
  | .flag x isSet => Text.encodeString x.token <:+: msg.flags.encodeBytes ↔ isSet = true
  | .internalDate op t r =>
    ∃ s, msg.HasTerm .sentDate (.sentDate s) ∧ s.InYears ∧
      ∃ start start', r.truncate s = .ok start ∧ r.truncate t = .ok start' ∧
        op.Holds start.toInt start'.toInt
  | .size _ _ | .uid _ | .modSeq _ | .not _ => False

def IsAll : Criterion → Prop
  | .all => True
  | .text value _ => IsBlank value
  | _ => False

/-- The longest term for which there is room in a pattern. -/
def termLimit : Nat := 327654

def Fits : Criterion → Prop
  | .text value _ => ∀ t ∈ Query.terms value, t.bytes.length ≤ termLimit
  | .headerContains _ value => (Term.ofText value).bytes.length ≤ termLimit
  | .headerAddress _ value => ∀ t ∈ Query.terms value, t.bytes.length ≤ termLimit
  | _ => True

/-- A criterion that is met by every message makes all others needless. -/
def AllFit (cs : List Criterion) : Prop := (∃ c ∈ cs, c.IsAll) ∨ ∀ c ∈ cs, c.Fits

end Criterion

end MailIndex
