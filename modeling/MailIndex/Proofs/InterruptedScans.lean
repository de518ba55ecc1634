import MailIndex.Proofs.Search
import MailIndex.Proofs.Store.Ends

namespace MailIndex.MailboxScan

/-- What a scan of these rows may come to: the messages of all of them, or those of the first few
with the fault that ended it, if there may be one. -/
inductive ComesTo (policy : FailurePolicy) (m : MailboxId) (rows : List Row) (mayStop : Prop) :
    Except Error ScanOutcome → Prop
  | complete : ComesTo policy m rows mayStop (.ok ⟨idsOf rows, true⟩)
  | stopped {shown : List Row} (fault : ScanFault) : mayStop → shown <+: rows →
      ComesTo policy m rows mayStop (onFault policy m (idsOf shown) fault)

def TimesOut (clock : Clock) (timeout : Option Nat) : Prop :=
  ∃ n, (expired clock timeout n).isSome = true

section Scans

variable {options : ScanOptions} {clock : Clock} {m : MailboxId}

theorem visitRows_visitor (timeout : Option Nat) (rows : List Row) (p : Progress) :
    (∃ looks, Scan.visitRows (visitor clock timeout) p rows =
        (⟨looks, rows.foldl (fun found row => row.harvest found) p.found, p.fault⟩, some ())) ∨
      TimesOut clock timeout ∧ ∃ looks shown fault, shown <+: rows ∧
        Scan.visitRows (visitor clock timeout) p rows =
          (⟨looks, shown.foldl (fun found row => row.harvest found) p.found, some fault⟩,
            none) := by
  induction rows generalizing p with
  | nil => exact .inl ⟨p.looks, rfl⟩
  | cons row rows ih =>
    rw [Scan.visitRows, visitor]
    cases hlook : expired clock timeout p.looks with
    | some fault =>
      have hover : TimesOut clock timeout := ⟨p.looks, by rw [hlook]; rfl⟩
      exact .inr ⟨hover, p.looks, [], fault, List.nil_prefix, rfl⟩
    | none =>
      rcases ih { p with looks := p.looks + 1, found := row.harvest p.found } with
        ⟨looks, hall⟩ | ⟨hover, looks, shown, fault, hshown, hstopped⟩
      · exact .inl ⟨looks, hall⟩
      · exact .inr ⟨hover, looks, row :: shown, fault, List.cons_prefix_cons.2 ⟨rfl, hshown⟩,
          hstopped⟩

theorem comesTo_ofScan {rows shown : List Row} (hshown : shown <+: rows)
    (failure : Option StoreError) (hall : failure = none → shown = rows) :
    ComesTo options.policy m rows (TimesOut clock options.timeout ∨ failure ≠ none)
      (ofScan options clock m ⟨shown, failure⟩) := by
  rw [ofScan, Scan.visit]
  rcases visitRows_visitor options.timeout shown ⟨0, ∅, none⟩ with
    ⟨looks, hvisit⟩ | ⟨hover, looks, fewer, fault, hfewer, hvisit⟩
  · rw [hvisit]
    cases failure with
    | none =>
      rw [hall rfl]
      exact .complete
    | some cause =>
      exact .stopped (.store cause) (.inr (Option.some_ne_none cause)) hshown
  · rw [hvisit]
    exact .stopped fault (.inl hover) (hfewer.trans hshown)

theorem comesTo_ofCollected (rows : List Row) :
    ComesTo options.policy m rows (TimesOut clock options.timeout)
      (ofCollected options clock m (.ok (idsOf rows))) := by
  rw [ofCollected]
  cases hlook : expired clock options.timeout 0 with
  | none => exact .complete
  | some fault => exact .stopped fault ⟨0, by rw [hlook]; rfl⟩ (List.prefix_refl rows)

theorem ComesTo.mono {policy : FailurePolicy} {rows : List Row} {mayStop mayStop' : Prop}
    {answer : Except Error ScanOutcome} (h : ComesTo policy m rows mayStop answer)
    (himp : mayStop → mayStop') : ComesTo policy m rows mayStop' answer := by
  cases h with
  | complete => exact .complete
  | stopped fault hstop hshown => exact .stopped fault (himp hstop) hshown

theorem comesTo_of_ends {mayFail : StoreCall → Prop} {s s' : MemoryStore} {f : RowFilter}
    {matcher : Matcher} {answer : Except Error ScanOutcome} (hf : f.prepare = .ok matcher)
    (hends : (run options clock m f).Ends mayFail s answer s') :
    ComesTo options.policy m (s.rowsFrom postingFamily m.bytes matcher)
      (TimesOut clock options.timeout ∨ mayFail .scan) answer := by
  rw [run, runWith, ← Filter.prepare, hf] at hends
  cases hmode : options.mode with
  | client =>
    simp only [hmode] at hends
    obtain ⟨shown, between, hscan, hdone⟩ := Script.ends_bind_iff.1 hends
    obtain ⟨rfl, -⟩ := Script.ends_pure_iff.1 hdone
    rcases Script.ends_scanRows_iff.1 hscan with
      ⟨rfl | ⟨hfails, rows, cause, hrows, rfl⟩, -⟩
    · exact (comesTo_ofScan (List.prefix_refl _) none fun _ => rfl).mono
        (Or.imp_right fun hne => absurd rfl hne)
    · have hne : some cause ≠ none := Option.some_ne_none cause
      exact (comesTo_ofScan hrows (some cause) hne.elim).mono (Or.imp_right fun _ => hfails)
  | colocated =>
    -- the store gives all ids or none, so no first few can be told
    simp only [hmode] at hends
    obtain ⟨found, between, hcollect, hdone⟩ := Script.ends_bind_iff.1 hends
    obtain ⟨rfl, -⟩ := Script.ends_pure_iff.1 hdone
    rcases hcollect with ⟨rfl, -⟩ | ⟨hfails, cause, rfl, -⟩
    · rw [MemoryStore.collect_eq_foldl]
      exact (comesTo_ofCollected _).mono .inl
    · exact .stopped (.store cause) (.inr hfails) List.nil_prefix

end Scans

structure FallsShort (full : IdSet) (policy : FailurePolicy) (answer : Except Error ScanOutcome) :
    Prop where
  subset : ∀ outcome, answer = .ok outcome → ∀ id ∈ outcome.ids.toList, id ∈ full.toList
  eq_of_complete : ∀ outcome, answer = .ok outcome → outcome.complete = true → outcome.ids = full
  ok_of_partialResult : policy = .partialResult → ∃ outcome, answer = .ok outcome
  complete_of_propagate : policy = .propagate → ∀ outcome, answer = .ok outcome →
    outcome.complete = true
  code_of_error : ∀ cause, answer = .error cause → cause.code = .scanAborted

theorem idsOf_subset_of_prefix {shown rows : List Row} (h : shown <+: rows) {id : MessageId}
    (hid : id ∈ (idsOf shown).toList) : id ∈ (idsOf rows).toList := by
  obtain ⟨r, hr, hid⟩ := mem_idsOf.1 hid
  exact mem_idsOf.2 ⟨r, h.subset hr, hid⟩

namespace ComesTo

variable {policy : FailurePolicy} {m : MailboxId} {rows : List Row} {mayStop : Prop}
  {answer : Except Error ScanOutcome} (h : ComesTo policy m rows mayStop answer)
include h

theorem eq_complete (hstop : ¬ mayStop) : answer = .ok ⟨idsOf rows, true⟩ := by
  cases h with
  | complete => rfl
  | stopped fault hmay _ => exact absurd hmay hstop

theorem fallsShort : FallsShort (idsOf rows) policy answer := by
  cases h with
  | complete =>
    refine ⟨?_, ?_, fun _ => ⟨_, rfl⟩, ?_, nofun⟩
    · rintro outcome ⟨⟩ id hid
      exact hid
    · rintro outcome ⟨⟩ -
      rfl
    · rintro - outcome ⟨⟩
      rfl
  | stopped fault _ hshown =>
    cases policy with
    | partialResult =>
      refine ⟨?_, ?_, fun _ => ⟨_, rfl⟩, nofun, nofun⟩
      · rintro outcome ⟨⟩ id hid
        exact idsOf_subset_of_prefix hshown hid
      · rintro outcome ⟨⟩ hcomplete
        cases hcomplete
    | propagate =>
      refine ⟨nofun, nofun, nofun, nofun, ?_⟩
      rintro cause ⟨⟩
      rfl

end ComesTo

/-- Whenever a timeout ends a scan, and after however many rows the store fails, the answer is right
as far as it goes; and it is all there is if neither happens. A store that tells the messages apart
itself does not fail, but may come too late. -/
theorem interrupted_scans_fall_short (s : MemoryStore) (m : MailboxId) {f : RowFilter}
    (hf : f.Ready) :
    ∃ full : IdSet,
      (∀ policy clock, (run ⟨.client, policy, none⟩ clock m f).run s = (.ok ⟨full, true⟩, s)) ∧
      ∀ options clock faults,
        let answer := ((run options clock m f).run s).1
        let answer' := ((run options clock m f).run (FaultyStore.mk s faults)).1
        FallsShort full options.policy answer ∧ FallsShort full options.policy answer' ∧
          (¬ TimesOut clock options.timeout → answer = .ok ⟨full, true⟩ ∧
            (faults.scan = none → answer' = .ok ⟨full, true⟩)) := by
  obtain ⟨matcher, hmatcher⟩ := hf
  refine ⟨idsOf (s.rowsFrom postingFamily m.bytes matcher), fun policy clock =>
    run_of_prepare_eq_ok policy clock m s .client hmatcher, fun options clock faults => ?_⟩
  have hcomesTo := comesTo_of_ends hmatcher
    (Script.ends_run (fun _ => False) (run options clock m f) s)
  have hwithin : (FaultyStore.mk s faults).Within faults.MayFail := fun _ hcall => hcall
  have hcomesTo' := comesTo_of_ends hmatcher (hwithin.ends_run (run options clock m f)).1
  refine ⟨hcomesTo.fallsShort, hcomesTo'.fallsShort, fun hover => ⟨?_, fun hscan => ?_⟩⟩
  · exact hcomesTo.eq_complete (by simpa using hover)
  · exact hcomesTo'.eq_complete (by simp [hover, Faults.MayFail, hscan])

def twoSubjects : MemoryStore :=
  Operation.runAll ∅ [.store (.ofNat 7) 7 ∅ (SortedSet.ofList [⟨.baseSubject, .ofText "a"⟩]),
    .store (.ofNat 7) 8 ∅ (SortedSet.ofList [⟨.baseSubject, .ofText "b"⟩])]

theorem interrupted_scans_fall_short_after_one_row :
    let answer := ((run ⟨.client, .partialResult, none⟩ .still (.ofNat 7) .all).run
      (FaultyStore.mk twoSubjects ⟨none, none, none, some 1⟩)).1
    Filter.Ready .all ∧
      answer.toOption.map (fun outcome => (outcome.ids.toList, outcome.complete)) =
        some ([7], false) ∧
      ∃ full : IdSet, full.toList = [7, 8] ∧ FallsShort full .partialResult answer := by
  intro answer
  obtain ⟨full, hfull, hanswers⟩ :=
    interrupted_scans_fall_short twoSubjects (.ofNat 7) Filter.ready_all
  obtain ⟨-, hanswer, -⟩ := hanswers ⟨.client, .partialResult, none⟩ .still
    ⟨none, none, none, some 1⟩
  refine ⟨Filter.ready_all, by decide +kernel, full, ?_, hanswer⟩
  have hrun := congrArg Prod.fst (hfull .propagate .still)
  rw [run_of_prepare_eq_ok _ _ _ _ _ rfl] at hrun
  cases hrun
  decide +kernel

end MailIndex.MailboxScan
