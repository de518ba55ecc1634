import MailIndex.Proofs.Flag
import MailIndex.Proofs.Search

namespace MailIndex

open MailIndex.Filter MailIndex.Query

section Compiled

variable (m : MailboxId) (x : Flag) (isSet : Bool)

theorem Query.compile_flag : compile m [.flag x isSet] = .ok (flagFilter m x isSet) := rfl

theorem Query.finds_flag_iff (row : Bytes) (cell : Cell) :
    Finds m [.flag x isSet] row cell ↔
      row = RowKey.flagsRow m ∧ (Text.encodeString x.token <:+: cell.value ↔ isSet = true) := by
  rw [← passes_flagFilter, Finds, compile_flag]
  constructor
  · rintro ⟨f, hf, hpasses⟩
    cases hf
    exact hpasses
  · intro hpasses
    exact ⟨_, rfl, hpasses⟩

theorem Query.finds_flag_in_flags_iff (qualifier : Bytes) (flags : MessageFlags) :
    Finds m [.flag x isSet] (RowKey.flagsRow m) ⟨qualifier, flags.encodeBytes⟩ ↔
      (x.token.toList <:+: flags.encode.toList ↔ isSet = true) := by
  rw [finds_flag_iff, and_iff_right rfl, MessageFlags.infix_encodeBytes_iff]

end Compiled

/-- A keyword is found wherever it is written, within a name or across keywords. -/
theorem Query.finds_keyword_iff {k : String} (hk : Flag.Parsed (.keyword k)) (m : MailboxId)
    (qualifier : Bytes) (flags : MessageFlags) :
    (Finds m [.flag (.keyword k) true] (RowKey.flagsRow m) ⟨qualifier, flags.encodeBytes⟩ ↔
      (∃ f ∈ flags.system.toList, Text.upper k.toList <:+: f.bareName.toList) ∨
        Text.upper k.toList <:+: flags.lastStretch) ∧
    (Finds m [.flag (.keyword k) false] (RowKey.flagsRow m) ⟨qualifier, flags.encodeBytes⟩ ↔
      ¬ ((∃ f ∈ flags.system.toList, Text.upper k.toList <:+: f.bareName.toList) ∨
        Text.upper k.toList <:+: flags.lastStretch)) ∧
    (Text.uppercase k ∈ flags.keywords.toList →
      Finds m [.flag (.keyword k) true] (RowKey.flagsRow m) ⟨qualifier, flags.encodeBytes⟩) := by
  have htoken : (Flag.keyword k).token.toList = Text.upper k.toList := String.toList_ofList
  simp only [finds_flag_in_flags_iff, htoken, iff_true, Bool.false_eq_true, iff_false,
    MessageFlags.infix_encode_iff hk.upper_ne_nil hk.backslash_not_mem_upper, true_and]
  intro hmem
  have hwithin := MessageFlags.infix_lastStretch_of_mem hmem
  rw [Text.uppercase, String.toList_ofList] at hwithin
  exact .inr hwithin

def fooAndBar : MessageFlags := .ofList [.keyword "foo", .keyword "bar"]

theorem parsed_foo : Flag.Parsed (.keyword "foo") := ⟨"foo", by decide +kernel⟩

theorem parseList_foo_bar : MessageFlags.parseList "foo,bar" = .ok fooAndBar := by
  have hnames : MessageFlags.listNames "foo,bar" = ["foo", "bar"] := by decide +kernel
  have hfoo : Flag.parse "foo" = .ok (.keyword "foo") := by decide +kernel
  have hbar : Flag.parse "bar" = .ok (.keyword "bar") := by decide +kernel
  rw [MessageFlags.parseList, hnames, List.mapM_cons, hfoo, List.mapM_cons, hbar]
  rfl

theorem built_fooAndBar : fooAndBar.Built := MessageFlags.built_of_parseList parseList_foo_bar

theorem Query.finds_keyword_foo :
    Flag.Parsed (.keyword "foo") ∧
      Finds (.ofNat 7) [.flag (.keyword "foo") true] (RowKey.flagsRow (.ofNat 7))
        ⟨[], fooAndBar.encodeBytes⟩ :=
  ⟨parsed_foo, (finds_keyword_iff parsed_foo (.ofNat 7) [] fooAndBar).2.2 (by decide +kernel)⟩

theorem Query.finds_keyword_across_two :
    fooAndBar.Built ∧ Flag.Parsed (.keyword "rf") ∧
      Text.uppercase "rf" ∉ fooAndBar.keywords.toList ∧
      Finds (.ofNat 7) [.flag (.keyword "rf") true] (RowKey.flagsRow (.ofNat 7))
        ⟨[], fooAndBar.encodeBytes⟩ := by
  refine ⟨built_fooAndBar, ⟨"rf", by decide +kernel⟩, by decide +kernel, ?_⟩
  rw [finds_flag_in_flags_iff, iff_true_right rfl]
  exact ⟨"BA".toList, "OO".toList, by decide +kernel⟩

namespace Index

theorem exists_search_flag_eq_ok {σ : Type} [RowStore σ] {k : σ} {s : MemoryStore}
    (hk : RowStore.AnswersAs k s) (m : MailboxId) (x : Flag) (isSet : Bool) (mode : ScanMode)
    (policy : FailurePolicy) (clock : Clock) :
    ∃ ids, ((search ⟨mode, policy, none⟩ clock m [.flag x isSet]).run k).1 = .ok ⟨ids, true⟩ ∧
      ∀ id, id ∈ ids.toList ↔ ∃ value, s.find? (flagsCell m id) = some value ∧
        (Text.encodeString x.token <:+: value ↔ isSet = true) := by
  obtain ⟨ids, hsearch, hids⟩ := exists_search_eq_ok hk mode policy clock
    (compile_flag m x isSet) (ready_flagFilter x isSet)
  refine ⟨ids, hsearch, fun id => (hids id).trans ?_⟩
  simp only [passes_flagFilter]
  constructor
  · rintro ⟨p, value, hfind, hrow, hset⟩
    have hcell : postingCell m id p = flagsCell m id := by
      rw [postingCell, hrow, flagsCell]
    exact ⟨value, hcell ▸ hfind, hset⟩
  · rintro ⟨value, hfind, hset⟩
    exact ⟨.flags, value, hfind, rfl, hset⟩

theorem exists_search_flag_either {σ : Type} [RowStore σ] {k : σ} {s : MemoryStore}
    (hk : RowStore.AnswersAs k s) (m : MailboxId) (id : MessageId) (x : Flag) (mode : ScanMode)
    (policy : FailurePolicy) (clock : Clock) :
    ∃ set unset, ((search ⟨mode, policy, none⟩ clock m [.flag x true]).run k).1 =
        .ok ⟨set, true⟩ ∧
      ((search ⟨mode, policy, none⟩ clock m [.flag x false]).run k).1 = .ok ⟨unset, true⟩ ∧
      (id ∈ set.toList ∨ id ∈ unset.toList ↔ (s.find? (flagsCell m id)).isSome = true) ∧
      ¬ (id ∈ set.toList ∧ id ∈ unset.toList) := by
  obtain ⟨set, hset, hmem⟩ := exists_search_flag_eq_ok hk m x true mode policy clock
  obtain ⟨unset, hunset, hmem'⟩ := exists_search_flag_eq_ok hk m x false mode policy clock
  refine ⟨set, unset, hset, hunset, ?_, ?_⟩
  · rw [hmem, hmem', ← exists_or, Option.isSome_iff_exists]
    refine exists_congr fun value => ?_
    by_cases h : Text.encodeString x.token <:+: value <;> simp [h]
  · rw [hmem, hmem']
    rintro ⟨⟨value, hfind, hyes⟩, value', hfind', hno⟩
    obtain rfl : value = value' := Option.some.inj (hfind.symm.trans hfind')
    exact nomatch hno.1 (hyes.2 rfl)

theorem search_flag_of_flagless {σ : Type} [RowStore σ] {k : σ} {s : MemoryStore}
    (hk : RowStore.AnswersAs k s) {m : MailboxId} {id : MessageId}
    (hid : s.find? (flagsCell m id) = some (∅ : MessageFlags).encodeBytes) {x : Flag}
    (hx : x.Parsed) (isSet : Bool) (mode : ScanMode) (policy : FailurePolicy) (clock : Clock) :
    ∃ ids, ((search ⟨mode, policy, none⟩ clock m [.flag x isSet]).run k).1 = .ok ⟨ids, true⟩ ∧
      (id ∈ ids.toList ↔ isSet = false) := by
  obtain ⟨ids, hsearch, hids⟩ := exists_search_flag_eq_ok hk m x isSet mode policy clock
  refine ⟨ids, hsearch, ?_⟩
  have htoken := MessageFlags.not_token_infix_empty hx
  simp [hids, hid, htoken]

/-- A reserved flag is found exactly where it is set, and no flag where none is. -/
theorem search_reserved_flag_exact {flags : MessageFlags} (h : flags.Built) :
    (∀ f : SystemFlag,
      (Text.encodeString f.token <:+: flags.encodeBytes ↔ f ∈ flags.system.toList) ∧
      ∀ m qualifier,
        (Finds m [.flag (.system f) true] (RowKey.flagsRow m) ⟨qualifier, flags.encodeBytes⟩ ↔
          f ∈ flags.system.toList) ∧
        (Finds m [.flag (.system f) false] (RowKey.flagsRow m) ⟨qualifier, flags.encodeBytes⟩ ↔
          f ∉ flags.system.toList)) ∧
    ∀ x : Flag, x.Parsed →
      ¬ Text.encodeString x.token <:+: (∅ : MessageFlags).encodeBytes ∧
      ∀ {σ : Type} [RowStore σ] (k : σ) (s : MemoryStore), RowStore.AnswersAs k s →
        ∀ m id, s.find? (flagsCell m id) = some (∅ : MessageFlags).encodeBytes →
          ∀ mode policy clock,
            (∃ ids, ((search ⟨mode, policy, none⟩ clock m [.flag x true]).run k).1 =
              .ok ⟨ids, true⟩ ∧ id ∉ ids.toList) ∧
            (∃ ids, ((search ⟨mode, policy, none⟩ clock m [.flag x false]).run k).1 =
              .ok ⟨ids, true⟩ ∧ id ∈ ids.toList) := by
  refine ⟨fun f => ⟨h.token_infix_iff f, fun m qualifier => ?_⟩, fun x hx => ⟨?_, ?_⟩⟩
  · have hfinds : ∀ isSet, Finds m [.flag (.system f) isSet] (RowKey.flagsRow m)
        ⟨qualifier, flags.encodeBytes⟩ ↔ (f ∈ flags.system.toList ↔ isSet = true) := by
      intro isSet
      rw [finds_flag_iff, and_iff_right rfl]
      exact iff_congr (h.token_infix_iff f) Iff.rfl
    simp [hfinds]
  · exact MessageFlags.not_token_infix_empty hx
  · intro σ _ k s hk m id hid mode policy clock
    obtain ⟨set, hset, hmem⟩ := search_flag_of_flagless hk hid hx true mode policy clock
    obtain ⟨unset, hunset, hmem'⟩ := search_flag_of_flagless hk hid hx false mode policy clock
    exact ⟨⟨set, hset, mt hmem.1 nofun⟩, unset, hunset, hmem'.2 rfl⟩

def flaglessStore : MemoryStore :=
  Operation.runAll ∅ [.store (.ofNat 7) 7 ∅ ∅]

def seenAndFoo : MessageFlags := .ofList [.system .seen, .keyword "foo"]

theorem built_seenAndFoo : seenAndFoo.Built := by
  refine ⟨_, List.forall_mem_cons.2 ⟨?_, List.forall_mem_singleton.2 parsed_foo⟩, rfl⟩
  exact Flag.parsed_system .seen

theorem search_reserved_flag_exact_seen :
    (seenAndFoo.Built ∧ SystemFlag.seen ∈ seenAndFoo.system.toList ∧
      Finds (.ofNat 7) [.flag (.system .seen) true] (RowKey.flagsRow (.ofNat 7))
        ⟨[], seenAndFoo.encodeBytes⟩ ∧
      ¬ Finds (.ofNat 7) [.flag (.system .seen) false] (RowKey.flagsRow (.ofNat 7))
        ⟨[], seenAndFoo.encodeBytes⟩) ∧
      fooAndBar.Built ∧ Flag.Parsed (.system .seen) ∧
      ¬ Finds (.ofNat 7) [.flag (.system .seen) true] (RowKey.flagsRow (.ofNat 7))
        ⟨[], fooAndBar.encodeBytes⟩ ∧
      ∃ ids, ((search ⟨.client, .propagate, none⟩ .still (.ofNat 7)
        [.flag (.system .seen) false]).run flaglessStore).1 = .ok ⟨ids, true⟩ ∧
          7 ∈ ids.toList := by
  have hexact := search_reserved_flag_exact built_fooAndBar
  have hid : flaglessStore.find? (flagsCell (.ofNat 7) 7) =
      some (∅ : MessageFlags).encodeBytes := by
    decide +kernel
  have hseen : SystemFlag.seen ∉ fooAndBar.system.toList :=
    mt MessageFlags.mem_system_ofList.1 (by decide)
  have hset : SystemFlag.seen ∈ seenAndFoo.system.toList := by decide +kernel
  have hfinds := ((search_reserved_flag_exact built_seenAndFoo).1 .seen).2 (.ofNat 7) []
  refine ⟨⟨built_seenAndFoo, hset, hfinds.1.2 hset, fun h => hfinds.2.1 h hset⟩, built_fooAndBar,
    Flag.parsed_system .seen, ?_, ?_⟩
  · exact mt ((hexact.1 .seen).2 (.ofNat 7) []).1.1 hseen
  · exact ((hexact.2 _ (Flag.parsed_system .seen)).2 _ _ (RowStore.AnswersAs.refl _) _ _ hid
      .client .propagate .still).2

end Index

end MailIndex
