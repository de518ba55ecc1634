import MailIndex.Proofs.Search
import MailIndex.Proofs.Store.Interleaving

namespace MailIndex

open MemoryStore (AgreeOn Joins)

namespace Index

def MailboxCell (m : MailboxId) (a : CellAddress) : Prop :=
  a.family = postingFamily ∧ m.bytes <+: a.row

def MessageCell (m : MailboxId) (id : MessageId) (a : CellAddress) : Prop :=
  MailboxCell m a ∧ a.qualifier = Qualifier.encode id

instance (m : MailboxId) : DecidablePred (MailboxCell m) :=
  fun _ => inferInstanceAs (Decidable (_ ∧ _))

instance (m : MailboxId) (id : MessageId) : DecidablePred (MessageCell m id) :=
  fun _ => inferInstanceAs (Decidable (_ ∧ _))

section Areas

variable {m n : MailboxId} {id id' : MessageId}

theorem messageCell_postingCell (p : Posting) : MessageCell m id (postingCell m id p) :=
  ⟨⟨rfl, RowKey.mailbox_prefix_encode_iff.2 rfl⟩, rfl⟩

theorem MailboxCell.unique {a : CellAddress} (h : MailboxCell m a) (h' : MailboxCell n a) :
    m = n := by
  have hlength : m.bytes.length = n.bytes.length := by rw [m.length_bytes, n.length_bytes]
  have hbytes : m.bytes <+: n.bytes := List.prefix_of_prefix_length_le h.2 h'.2 hlength.le
  exact MailboxId.ext (hbytes.eq_of_length hlength)

theorem MessageCell.unique {a : CellAddress} (h : MessageCell m id a) (h' : MessageCell n id' a) :
    m = n ∧ id = id' :=
  ⟨h.1.unique h'.1, Qualifier.encode_inj (h.2.symm.trans h'.2)⟩

theorem showsOnly_mailbox (m : MailboxId) (matcher : Matcher) :
    matcher.ShowsOnly (MailboxCell m) postingFamily m.bytes :=
  fun _ _ hrow _ => ⟨rfl, hrow⟩

theorem showsOnly_message (m : MailboxId) (id : MessageId) :
    Filter.ShowsOnly (.qualifierEquals (Qualifier.encode id)) (MessageCell m id) postingFamily
      m.bytes :=
  fun _ _ hrow hholds => ⟨⟨rfl, hrow⟩, eq_of_beq hholds⟩

theorem mem_cellRows_of_messageCell {s : MemoryStore} {a : CellAddress} (ha : MessageCell m id a)
    (hsome : (s.find? a).isSome = true) : a.row ∈ cellRows s m id := by
  obtain ⟨family, row, qualifier⟩ := a
  obtain ⟨⟨rfl, hstart⟩, rfl⟩ := ha
  exact mem_cellRows.2 ⟨hstart, hsome⟩

end Areas

section Confined

variable (m : MailboxId) (id : MessageId) (flags : MessageFlags)

theorem confined_writePostings (ps : List Posting) :
    (writePostings m id ps).Confined (MessageCell m id) := by
  induction ps with
  | nil => trivial
  | cons p ps ih =>
    refine .bind (.putCell (messageCell_postingCell p) presence) fun answer => ?_
    cases answer with
    | error cause => trivial
    | ok => exact ih

theorem confined_store (ps : Postings) : (store m id flags ps).Confined (MessageCell m id) := by
  refine .bind (.putCell (messageCell_postingCell .flags) flags.encodeBytes) fun answer => ?_
  cases answer with
  | error cause => trivial
  | ok => exact confined_writePostings m id _

theorem confined_updateFlags : (updateFlags m id flags).Confined (MessageCell m id) := by
  refine .bind (.getCell (messageCell_postingCell .flags)) fun answer => ?_
  rcases answer with cause | _ | value
  · trivial
  · trivial
  · exact .bind (.putCell (messageCell_postingCell .flags) flags.encodeBytes) fun _ => trivial

theorem confined_deleteCells {rows : List Bytes} (hrows : ∀ row ∈ rows, m.bytes <+: row) :
    (deleteCells (Qualifier.encode id) rows).Confined (MessageCell m id) := by
  induction rows with
  | nil => trivial
  | cons row rows ih =>
    obtain ⟨hrow, hrest⟩ := List.forall_mem_cons.1 hrows
    refine .bind (.deleteCell ⟨⟨rfl, hrow⟩, rfl⟩) fun answer => ?_
    exact .bind (ih hrest) fun _ => trivial

theorem confined_delete : (delete m id).Confined (MessageCell m id) := by
  refine .scanRows_bind (showsOnly_message m id) fun shown hshown => ?_
  obtain ⟨rows, failure⟩ := shown
  cases failure with
  | some cause => trivial
  | none => exact confined_deleteCells m id (List.forall_mem_map.2 hshown)

theorem confined_updateFlagsOf (ids : List MessageId) :
    (updateFlagsOf m flags ids).Confined (MailboxCell m) := by
  induction ids with
  | nil => trivial
  | cons id ids ih =>
    refine .bind ((confined_updateFlags m id flags).mono fun _ => And.left) fun _ => ?_
    exact .bind ih fun _ => trivial

theorem confined_deleteEach (ids : List MessageId) :
    (deleteEach m ids).Confined (MailboxCell m) := by
  induction ids with
  | nil => trivial
  | cons id ids ih =>
    refine .bind ((confined_delete m id).mono fun _ => And.left) fun _ => ?_
    exact .bind ih fun _ => trivial

theorem confined_scan (options : ScanOptions) (clock : Clock) (f : RowFilter) :
    (MailboxScan.run options clock m f).Confined (MailboxCell m) := by
  rw [MailboxScan.run, MailboxScan.runWith, ← Filter.prepare]
  cases f.prepare with
  | error cause => trivial
  | ok matcher =>
    cases options.mode with
    | client => exact .scanRows_bind (showsOnly_mailbox m matcher) fun _ _ => trivial
    | colocated => exact .bind (.collect (showsOnly_mailbox m matcher)) fun _ => trivial

theorem confined_search (options : ScanOptions) (clock : Clock) (criteria : List Criterion) :
    (search options clock m criteria).Confined (MailboxCell m) := by
  rw [search, searchWith]
  cases Query.compile m criteria with
  | error cause => trivial
  | ok f => exact confined_scan m options clock f

end Confined

inductive Write
  | store (flags : MessageFlags) (ps : Postings)
  | updateFlags (flags : MessageFlags)
  | delete

namespace Write

def Answer : Write → Type
  | store _ _ => Except Error Unit
  | updateFlags _ => Bool
  | delete => DeleteReport

def script (m : MailboxId) (id : MessageId) : (w : Write) → Script w.Answer
  | store flags ps => Index.store m id flags ps
  | updateFlags flags => Index.updateFlags m id flags
  | delete => Index.delete m id

theorem confined (m : MailboxId) (id : MessageId) (w : Write) :
    (w.script m id).Confined (MessageCell m id) := by
  cases w with
  | store flags ps => exact confined_store m id flags ps
  | updateFlags flags => exact confined_updateFlags m id flags
  | delete => exact confined_delete m id

end Write

inductive Call
  | write (id : MessageId) (w : Write)
  | updateFlagsMany (ranges : List IdRange) (flags : MessageFlags)
  | deleteMany (ranges : List IdRange)
  | search (mode : ScanMode) (policy : FailurePolicy) (criteria : List Criterion)
  | list (mode : ScanMode) (policy : FailurePolicy)
  | execute (mode : ScanMode) (policy : FailurePolicy) (f : RowFilter)

namespace Call

def Answer : Call → Type
  | write _ w => w.Answer
  | updateFlagsMany _ _ => Nat
  | deleteMany _ => DeleteReport
  | search _ _ _ | list _ _ | execute _ _ _ => Except Error ScanOutcome

def script (clock : Clock) (m : MailboxId) : (call : Call) → Script call.Answer
  | write id w => w.script m id
  | updateFlagsMany ranges flags => Index.updateFlagsMany m ranges flags
  | deleteMany ranges => Index.deleteMany m ranges
  | search mode policy criteria => Index.search ⟨mode, policy, none⟩ clock m criteria
  | list mode policy => Index.list ⟨mode, policy, none⟩ clock m
  | execute mode policy f => MailboxScan.run ⟨mode, policy, none⟩ clock m f

theorem script_clock (clock clock' : Clock) (m : MailboxId) (call : Call) :
    call.script clock m = call.script clock' m := by
  cases call <;> rfl

theorem confined (clock : Clock) (m : MailboxId) (call : Call) :
    (call.script clock m).Confined (MailboxCell m) := by
  cases call with
  | write id w => exact (w.confined m id).mono fun _ => And.left
  | updateFlagsMany ranges flags => exact confined_updateFlagsOf m flags _
  | deleteMany ranges => exact confined_deleteEach m _
  | search mode policy criteria => exact confined_search m _ clock criteria
  | list mode policy => exact confined_search m ⟨mode, policy, none⟩ clock [.all]
  | execute mode policy f => exact confined_scan m _ clock f

end Call

/-- Whatever else is stored, a call on a mailbox has the same answer and leaves the same cells
there, and all other cells as they are. -/
theorem calls_keep_to_mailbox {σ τ : Type} [RowStore σ] [RowStore τ] {k : σ} {l : τ}
    {s t : MemoryStore} (hk : RowStore.AnswersAs k s) (hl : RowStore.AnswersAs l t)
    {m : MailboxId} (h : AgreeOn (MailboxCell m) s t) (call : Call) (clock clock' : Clock) :
    ((call.script clock m).run k).1 = ((call.script clock' m).run l).1 ∧
      ∃ s' t', RowStore.AnswersAs ((call.script clock m).run k).2 s' ∧
        RowStore.AnswersAs ((call.script clock' m).run l).2 t' ∧
        AgreeOn (MailboxCell m) s' t' ∧ AgreeOn (¬ MailboxCell m ·) s s' ∧
        AgreeOn (¬ MailboxCell m ·) t t' := by
  have hconfined := call.confined clock m
  rw [call.script_clock clock' clock]
  obtain ⟨hanswer, hcells⟩ := hconfined.run_congr s h
  refine ⟨?_, _, _, hk.run _, hl.run _, hcells, hconfined.agreeOn_run s, hconfined.agreeOn_run t⟩
  rw [hk, hl, hanswer]

def oneMessage : MemoryStore := Operation.runAll ∅ shortSubject

theorem run_delete_oneMessage : ((delete (.ofNat 7) 7).run oneMessage).1 = ⟨3, 0⟩ := by
  decide +kernel

def besideOthers : MemoryStore :=
  ((Index.store (.ofNat 8) 7 ∅ shortSubjectPostings).run
    (oneMessage.insert ⟨[0x47], RowKey.flagsRow (.ofNat 7), Qualifier.encode 7⟩ presence)).2

theorem agreeOn_besideOthers : AgreeOn (MailboxCell (.ofNat 7)) oneMessage besideOthers := by
  have hfamily : ¬ MailboxCell (.ofNat 7)
      ⟨[0x47], RowKey.flagsRow (.ofNat 7), Qualifier.encode 7⟩ := by
    rintro ⟨hfamily, -⟩
    exact absurd hfamily (by decide)
  have hne : MailboxId.ofNat 7 ≠ .ofNat 8 := by decide
  refine (AgreeOn.insert_self hfamily oneMessage presence).trans ?_
  exact ((confined_store (.ofNat 8) 7 ∅ shortSubjectPostings).agreeOn_run _).mono
    fun a ha ha' => hne (ha.unique ha'.1)

theorem calls_keep_to_mailbox_beside_others :
    AgreeOn (MailboxCell (.ofNat 7)) oneMessage besideOthers ∧
      ((delete (.ofNat 7) 7).run besideOthers).1 = ⟨3, 0⟩ ∧
      ∃ s', RowStore.AnswersAs ((delete (.ofNat 7) 7).run besideOthers).2 s' ∧
        AgreeOn (¬ MailboxCell (.ofNat 7) ·) besideOthers s' := by
  obtain ⟨hanswer, -, s', -, hs', -, -, helse⟩ :=
    calls_keep_to_mailbox (RowStore.AnswersAs.refl _) (RowStore.AnswersAs.refl _)
      agreeOn_besideOthers (.write 7 .delete) .still .still
  exact ⟨agreeOn_besideOthers, hanswer.symm.trans run_delete_oneMessage, s', hs', helse⟩

/-- Calls that write different messages come to the same, and leave the same cells, in whatever
order their store calls are made. -/
theorem writers_never_conflict {m n : MailboxId} {id id' : MessageId}
    (hne : ¬ (m = n ∧ id = id')) (v w : Write) (turns : List Bool) (s : MemoryStore) :
    let x := v.script m id
    let y := w.script n id'
    let both := Script.interleave turns x y s
    (both.1 = ((x.run s).1, (y.run (x.run s).2).1) ∧
      ∀ a, both.2.find? a = (y.run (x.run s).2).2.find? a) ∧
    both.1 = ((x.run (y.run s).2).1, (y.run s).1) ∧
      ∀ a, both.2.find? a = (x.run (y.run s).2).2.find? a := by
  intro x y both
  have hx : x.Confined (MessageCell m id) := v.confined m id
  have hy : y.Confined (MessageCell n id') := w.confined n id'
  have hdisjoint : ∀ a, MessageCell m id a → ¬ MessageCell n id' a :=
    fun a ha ha' => hne (ha.unique ha')
  have hdisjoint' : ∀ a, MessageCell n id' a → ¬ MessageCell m id a :=
    fun a ha ha' => hne (ha'.unique ha)
  obtain ⟨hboth, hjoins⟩ := Script.interleave_eq hdisjoint hx hy turns (.refl _ _ s)
  -- one call after the other is a way of taking turns, too
  obtain ⟨hxy, hjoins'⟩ := Script.interleave_eq hdisjoint hx hy [] (.refl _ _ s)
  obtain ⟨hyx, hjoins''⟩ := Script.interleave_eq hdisjoint' hy hx [] (.refl _ _ s)
  refine ⟨⟨hboth.trans hxy.symm, hjoins.find?_eq hjoins'⟩, ?_, hjoins.find?_eq hjoins''.symm⟩
  rw [hboth]
  exact congrArg Prod.swap hyx.symm

theorem writers_never_conflict_in_same_rows :
    ¬ (MailboxId.ofNat 7 = .ofNat 7 ∧ (7 : MessageId) = 8) ∧
      let both := Script.interleave [true, false, true, true, false, true]
        (Write.script (.ofNat 7) 7 .delete)
        (Write.script (.ofNat 7) 8 (.store ∅ shortSubjectPostings)) oneMessage
      both.1.1 = DeleteReport.mk 3 0 ∧
        both.2.find? (flagsCell (.ofNat 7) 7) = none ∧
        both.2.find? (flagsCell (.ofNat 7) 8) = some (∅ : MessageFlags).encodeBytes := by
  have hne : ¬ (MailboxId.ofNat 7 = .ofNat 7 ∧ (7 : MessageId) = 8) := by decide
  obtain ⟨⟨hanswers, hcells⟩, -⟩ := writers_never_conflict hne .delete
    (.store ∅ shortSubjectPostings) [true, false, true, true, false, true] oneMessage
  refine ⟨hne, ?_, ?_, ?_⟩
  · rw [hanswers]
    exact run_delete_oneMessage
  · rw [hcells]
    decide +kernel
  · rw [hcells]
    decide +kernel

end Index

end MailIndex
