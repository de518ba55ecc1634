import MailIndex.Proofs.Criterion
import MailIndex.Proofs.Index
import MailIndex.Proofs.MailboxScan

namespace MailIndex

namespace Index

theorem found_iff {msg : LiveMessage} {m : MailboxId} {id : MessageId} {f : RowFilter} :
    msg.Found m id f ↔ ∃ p value, msg.value? p = some value ∧
      f.Passes (RowKey.encode ⟨m, p.field, p.term⟩) ⟨Qualifier.encode id, value⟩ := by
  simp only [LiveMessage.value?_eq_some_iff]
  constructor
  · rintro (h | ⟨p, hp, h⟩)
    · exact ⟨.flags, msg.flags.encodeBytes, .inl ⟨rfl, rfl⟩, h⟩
    · exact ⟨p, presence, .inr ⟨hp, rfl⟩, h⟩
  · rintro ⟨p, value, ⟨rfl, rfl⟩ | ⟨hp, rfl⟩, h⟩
    · exact .inl h
    · exact .inr ⟨p, hp, h⟩

theorem mem_idsOf_iff (s : MemoryStore) (m : MailboxId) {f : RowFilter} {matcher : Matcher}
    (hf : f.prepare = .ok matcher) (id : MessageId) :
    id ∈ (MailboxScan.idsOf (s.rowsFrom postingFamily m.bytes matcher)).toList ↔
      ∃ p value, s.find? (postingCell m id p) = some value ∧
        f.Passes (RowKey.encode ⟨m, p.field, p.term⟩) ⟨Qualifier.encode id, value⟩ := by
  rw [MailboxScan.mem_idsOf]
  simp only [Filter.passes_iff_holds hf]
  constructor
  · rintro ⟨⟨key, cells⟩, hr, hid⟩
    obtain ⟨⟨⟨m', field, term⟩, hkey⟩, ⟨qualifier, value⟩, hc, hqualifier⟩ := Row.mem_ids.1 hid
    obtain rfl := RowKey.decode_eq_ok_iff.1 hkey
    obtain rfl := Qualifier.decode_eq_ok_iff.1 hqualifier
    obtain ⟨-, hstart, hcells⟩ := MemoryStore.mem_rowsFrom hr
    obtain rfl : m' = m := RowKey.mailbox_prefix_encode_iff.1 hstart
    exact ⟨⟨field, term⟩, value, (hcells _).1 hc⟩
  · rintro ⟨p, value, hfind, hholds⟩
    have hstart : m.bytes <+: RowKey.encode ⟨m, p.field, p.term⟩ :=
      RowKey.mailbox_prefix_encode_iff.2 rfl
    obtain ⟨r, hr, hkey, hc⟩ := MemoryStore.exists_mem_rowsFrom hfind hstart hholds
    have hdecode : RowKey.decode r.key = .ok ⟨m, p.field, p.term⟩ := by
      rw [hkey, RowKey.decode_encode]
    exact ⟨r, hr, Row.mem_ids.2 ⟨⟨_, hdecode⟩, _, hc, Qualifier.decode_encode id⟩⟩

theorem Represents.mem_idsOf_iff {s : MemoryStore} {T : Messages} (h : Represents s T)
    (m : MailboxId) {f : RowFilter} {matcher : Matcher} (hf : f.prepare = .ok matcher)
    (id : MessageId) :
    id ∈ (MailboxScan.idsOf (s.rowsFrom postingFamily m.bytes matcher)).toList ↔
      ∃ msg, T m id = some msg ∧ msg.Found m id f := by
  rw [Index.mem_idsOf_iff s m hf]
  simp only [found_iff, h.find?_cell, Option.bind_eq_some_iff]
  constructor
  · rintro ⟨p, value, ⟨msg, hmsg, hvalue⟩, hpasses⟩
    exact ⟨msg, hmsg, p, value, hvalue, hpasses⟩
  · rintro ⟨msg, hmsg, p, value, hvalue, hpasses⟩
    exact ⟨p, value, ⟨msg, hmsg, hvalue⟩, hpasses⟩

section Store

variable {σ : Type} [RowStore σ] {k : σ} {s : MemoryStore} (hk : RowStore.AnswersAs k s)
  (mode : ScanMode) (policy : FailurePolicy) (clock : Clock) {m : MailboxId} {cs : List Criterion}
  {f : RowFilter} (hf : Query.compile m cs = .ok f)
include hk hf

theorem exists_search_eq_ok (hready : f.Ready) :
    ∃ ids, ((search ⟨mode, policy, none⟩ clock m cs).run k).1 = .ok ⟨ids, true⟩ ∧
      ∀ id, id ∈ ids.toList ↔ ∃ p value, s.find? (postingCell m id p) = some value ∧
        f.Passes (RowKey.encode ⟨m, p.field, p.term⟩) ⟨Qualifier.encode id, value⟩ := by
  obtain ⟨matcher, hmatcher⟩ := hready
  refine ⟨_, ?_, mem_idsOf_iff s m hmatcher⟩
  rw [hk, search_of_compile_eq_ok hf]
  exact congrArg Prod.fst (MailboxScan.run_of_prepare_eq_ok policy clock m s mode hmatcher)

theorem search_eq_error (options : ScanOptions) (hready : ¬ f.Ready) :
    ∃ pattern, ((search options clock m cs).run k).1 = .error (.filter (.badPattern pattern)) := by
  obtain ⟨pattern, hpattern⟩ := Filter.prepare_of_not_ready hready
  refine ⟨pattern, ?_⟩
  rw [hk, search_of_compile_eq_ok hf]
  exact congrArg Prod.fst (MailboxScan.run_of_prepare_eq_error s options clock m hpattern)

end Store

theorem exists_list_eq_ok {σ : Type} [RowStore σ] {k : σ} {s : MemoryStore}
    (hk : RowStore.AnswersAs k s) (m : MailboxId) (mode : ScanMode) (policy : FailurePolicy)
    (clock : Clock) :
    ∃ ids, ((list ⟨mode, policy, none⟩ clock m).run k).1 = .ok ⟨ids, true⟩ ∧
      ∀ id, id ∈ ids.toList ↔ ∃ p, (s.find? (postingCell m id p)).isSome = true := by
  have hcompile : Query.compile m [.all] = .ok .all := rfl
  obtain ⟨ids, hlist, hids⟩ := exists_search_eq_ok hk mode policy clock hcompile Filter.ready_all
  refine ⟨ids, hlist, fun id => (hids id).trans (exists_congr fun p => ?_)⟩
  rw [Option.isSome_iff_exists]
  exact exists_congr fun value => and_iff_left Filter.passes_all

/-- After any calls a search finds exactly the messages that are left and meet one of its
criteria, unless there is no room for a pattern. -/
theorem search_exact (ops : List Operation) (hops : ∀ op ∈ ops, op.WellDated) (m : MailboxId)
    (cs : List Criterion) (hcs : cs ≠ []) {f : RowFilter} (hf : Query.compile m cs = .ok f)
    (mode : ScanMode) (policy : FailurePolicy) (clock : Clock) :
    (Criterion.AllFit cs → ∃ ids,
      (search ⟨mode, policy, none⟩ clock m cs).run (Operation.runAll (∅ : MemoryStore) ops) =
        (.ok ⟨ids, true⟩, Operation.runAll ∅ ops) ∧
      ∀ id, id ∈ ids.toList ↔
        ∃ msg, Operation.replay ops m id = some msg ∧ ∃ c ∈ cs, c.Meets msg) ∧
    (¬ Criterion.AllFit cs → ∃ pattern,
      (search ⟨mode, policy, none⟩ clock m cs).run (Operation.runAll (∅ : MemoryStore) ops) =
        (.error (.filter (.badPattern pattern)), Operation.runAll ∅ ops)) := by
  rw [search_of_compile_eq_ok hf, ← Criterion.ready_compile_iff hf]
  constructor
  · intro hready
    obtain ⟨matcher, hmatcher⟩ := hready
    refine ⟨_, MailboxScan.run_of_prepare_eq_ok policy clock m _ mode hmatcher, fun id => ?_⟩
    -- from rows to messages, and from the filter to the criteria
    rw [(represents_runAll ops).mem_idsOf_iff m hmatcher]
    have hfit : Criterion.AllFit cs := (Criterion.ready_compile_iff hf).1 ⟨matcher, hmatcher⟩
    refine exists_congr fun msg => and_congr_right fun hmsg => ?_
    exact Criterion.found_compile_iff hcs hf hfit (Operation.wellDated_replay hops m id msg hmsg) id
  · intro hready
    obtain ⟨pattern, hpattern⟩ := Filter.prepare_of_not_ready hready
    exact ⟨pattern, MailboxScan.run_of_prepare_eq_error _ _ clock m hpattern⟩

def shortSubjectPostings : Postings :=
  SortedSet.ofList [⟨.baseSubject, .ofText "hi"⟩, ⟨.sentDate, .sentDate 0⟩]

def shortSubject : List Operation := [.store (.ofNat 7) 7 ∅ shortSubjectPostings]

theorem exists_sentDate_shortSubject :
    ∀ t ∈ shortSubjectPostings.termsOf .sentDate, ∃ s, t = .sentDate s := by
  have hdates : shortSubjectPostings.termsOf .sentDate = [.sentDate 0] := by decide +kernel
  intro t ht
  rw [hdates, List.mem_singleton] at ht
  exact ⟨0, ht⟩

theorem wellDated_shortSubject : ∀ op ∈ shortSubject, op.WellDated :=
  List.forall_mem_singleton.2 exists_sentDate_shortSubject

theorem meets_shortSubject :
    Criterion.Meets (LiveMessage.stored none ∅ shortSubjectPostings)
      (.headerContains "Subject" "i") := by
  refine ⟨.ofText "hi", ?_, ?_⟩
  · change _ ∈ (LiveMessage.stored none ∅ shortSubjectPostings).postings.toList
    decide +kernel
  · rw [← Bytes.contains_iff]
    decide +kernel

def seenThenDeleted : List Operation :=
  [.store (.ofNat 7) 7 ∅ shortSubjectPostings, .store (.ofNat 7) 8 ∅ shortSubjectPostings,
    .store (.ofNat 7) 9 ∅ shortSubjectPostings,
    .updateFlagsMany (.ofNat 7) [⟨7, 8⟩] (.ofList [.system .seen]),
    .deleteMany (.ofNat 7) [⟨8, 8⟩, ⟨10, 12⟩]]

theorem wellDated_seenThenDeleted : ∀ op ∈ seenThenDeleted, op.WellDated := by
  simp only [seenThenDeleted, List.forall_mem_cons, Operation.WellDated]
  exact ⟨exists_sentDate_shortSubject, exists_sentDate_shortSubject, exists_sentDate_shortSubject,
    trivial, trivial, nofun⟩

theorem search_exact_short_subject :
    (∀ op ∈ shortSubject, op.WellDated) ∧ (∀ op ∈ seenThenDeleted, op.WellDated) ∧
      Criterion.AllFit [.headerContains "Subject" "i", .flag (.system .seen) true] ∧
      (∃ ids, (search ⟨.client, .propagate, none⟩ .still (.ofNat 7)
          [.headerContains "Subject" "i", .flag (.system .seen) true]).run
            (Operation.runAll (∅ : MemoryStore) shortSubject) =
          (.ok ⟨ids, true⟩, Operation.runAll ∅ shortSubject) ∧ 7 ∈ ids.toList) ∧
      ∃ ids, (search ⟨.colocated, .propagate, none⟩ .still (.ofNat 7)
          [.flag (.system .seen) true]).run (Operation.runAll (∅ : MemoryStore) seenThenDeleted) =
          (.ok ⟨ids, true⟩, Operation.runAll ∅ seenThenDeleted) ∧
        7 ∈ ids.toList ∧ 8 ∉ ids.toList ∧ 9 ∉ ids.toList := by
  have hfit : Criterion.AllFit [.headerContains "Subject" "i", .flag (.system .seen) true] := by
    refine .inr (List.forall_mem_cons.2 ⟨?_, List.forall_mem_singleton.2 trivial⟩)
    change (Term.ofText "i").bytes.length ≤ Criterion.termLimit
    decide +kernel
  have hflagfit : Criterion.AllFit [.flag (.system .seen) true] :=
    .inr (List.forall_mem_singleton.2 trivial)
  obtain ⟨ids, hrun, hids⟩ := (search_exact shortSubject wellDated_shortSubject (.ofNat 7) _
    (List.cons_ne_nil _ _) rfl .client .propagate .still).1 hfit
  obtain ⟨seen, hseenrun, hseen⟩ := (search_exact seenThenDeleted wellDated_seenThenDeleted
    (.ofNat 7) _ (List.cons_ne_nil _ _) rfl .colocated .propagate .still).1 hflagfit
  have hflags : ∀ id, id ∈ seen.toList ↔ ∃ msg,
      Operation.replay seenThenDeleted (.ofNat 7) id = some msg ∧
        Bytes.contains (Text.encodeString SystemFlag.seen.token) msg.flags.encodeBytes = true := by
    intro id
    rw [hseen]
    simp [Criterion.Meets, Bytes.contains_iff, Flag.token]
  refine ⟨wellDated_shortSubject, wellDated_seenThenDeleted, hfit, ⟨ids, hrun, ?_⟩, seen,
    hseenrun, ?_, ?_, ?_⟩
  · exact (hids 7).2 ⟨_, rfl, _, List.mem_cons_self, meets_shortSubject⟩
  · exact (hflags 7).2 ⟨_, rfl, by decide +kernel⟩
  · rw [hflags]
    rintro ⟨msg, hmsg, -⟩
    cases hmsg
  · rw [hflags]
    rintro ⟨msg, hmsg, hset⟩
    cases hmsg
    revert hset
    decide +kernel

def longSubject : List Criterion :=
  [.headerContains "subject" (String.ofList (List.replicate 400000 'A'))]

theorem length_ofChars_replicate (n : Nat) :
    (Term.ofChars (List.replicate n 'A')).bytes.length = n := by
  have hupper : Text.upperChar 'A' = ['A'] := by decide
  have hencode : String.utf8EncodeChar 'A' = [0x41] := by decide
  simp [Term.ofChars, Text.upper, Text.encode, List.flatMap_replicate, hupper, hencode]

theorem not_allFit_longSubject : ¬ Criterion.AllFit longSubject := by
  rintro (⟨c, hc, hall⟩ | hfits)
  · rw [longSubject, List.mem_singleton] at hc
    rw [hc] at hall
    exact hall
  · have hfit : (Term.ofText (String.ofList (List.replicate 400000 'A'))).bytes.length ≤
        Criterion.termLimit := hfits _ (List.mem_singleton.2 rfl)
    rw [Term.ofText, String.toList_ofList, length_ofChars_replicate] at hfit
    exact absurd hfit (by decide)

/-- These criteria are accepted, yet every search for them fails. -/
theorem search_long_subject_fails :
    (∀ op ∈ shortSubject, op.WellDated) ∧ longSubject ≠ [] ∧
      (∃ f, Query.compile (.ofNat 7) longSubject = .ok f) ∧
      ∀ mode policy clock ids,
        ((search ⟨mode, policy, none⟩ clock (.ofNat 7) longSubject).run
          (Operation.runAll (∅ : MemoryStore) shortSubject)).1 ≠ .ok ⟨ids, true⟩ := by
  have hne : longSubject ≠ [] := List.cons_ne_nil _ _
  obtain ⟨f, hf⟩ : ∃ f, Query.compile (.ofNat 7) longSubject = .ok f := ⟨_, rfl⟩
  refine ⟨wellDated_shortSubject, hne, ⟨f, hf⟩, fun mode policy clock ids => ?_⟩
  obtain ⟨pattern, hpattern⟩ := Filter.prepare_of_not_ready
    (mt (Criterion.ready_compile_iff hf).1 not_allFit_longSubject)
  rw [search_of_compile_eq_ok hf]
  rw [MailboxScan.run_of_prepare_eq_error _ _ clock _ hpattern]
  nofun

end Index

end MailIndex
