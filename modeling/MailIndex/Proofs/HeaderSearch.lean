import MailIndex.Proofs.TextSearch

namespace MailIndex

open MailIndex.Filter MailIndex.Query

theorem Term.ofText_infix_ofChars {value : String} {token : List Char}
    (h : Text.OccursIn value.toList token) :
    (Term.ofText value).bytes <:+: (Term.ofChars token).bytes := by
  obtain ⟨u, hu, hcase⟩ := h
  have hupper : Text.upper u = Text.upper value.toList := by
    rw [← Text.upper_asciiUpper, hcase, Text.upper_asciiUpper]
  rw [Term.ofText, Term.ofChars, Term.ofChars, Text.encode_infix_encode_iff, ← hupper]
  exact Text.upper_infix_upper hu

namespace Index

section HeaderContains

variable {name value : String} {f : Field} (hname : Field.ofHeader name = f)
include hname

theorem compile_headerContains (m : MailboxId) :
    compile m [.headerContains name value] = .ok (termMatch m f (.ofText value)) := by
  rw [← hname]
  rfl

theorem ne_flags_of_ofHeader_eq : f ≠ .flags := by
  rw [← hname]
  exact Criterion.ofHeader_ne_flags name

variable {σ : Type} [RowStore σ] {k : σ} {s : MemoryStore} (hk : RowStore.AnswersAs k s)
  (m : MailboxId) (mode : ScanMode) (policy : FailurePolicy) (clock : Clock)
include hk

theorem exists_search_headerContains (hfits : (Criterion.headerContains name value).Fits) :
    ∃ ids, ((search ⟨mode, policy, none⟩ clock m [.headerContains name value]).run k).1 =
        .ok ⟨ids, true⟩ ∧
      ∀ id, id ∈ ids.toList ↔ ∃ t : Term, (Term.ofText value).bytes <:+: t.bytes ∧
        (s.find? (postingCell m id ⟨f, t⟩)).isSome = true := by
  obtain ⟨ids, hsearch, hids⟩ := exists_search_eq_ok hk mode policy clock
    (compile_headerContains hname m) ((ready_termMatch ..).2 hfits)
  refine ⟨ids, hsearch, fun id => (hids id).trans ?_⟩
  constructor
  · rintro ⟨⟨f, t⟩, stored, hfind, hpasses⟩
    obtain ⟨-, -, rfl, hwithin⟩ := (passes_termMatch ..).1 hpasses
    exact ⟨t, hwithin, Option.isSome_iff_exists.2 ⟨stored, hfind⟩⟩
  · rintro ⟨t, hwithin, hsome⟩
    obtain ⟨stored, hfind⟩ := Option.isSome_iff_exists.1 hsome
    exact ⟨⟨f, t⟩, stored, hfind, (passes_termMatch ..).2 ⟨hfits, rfl, rfl, hwithin⟩⟩

theorem search_headerContains_eq_error (hfits : ¬ (Criterion.headerContains name value).Fits) :
    ∃ pattern, ((search ⟨mode, policy, none⟩ clock m [.headerContains name value]).run k).1 =
      .error (.filter (.badPattern pattern)) :=
  search_eq_error hk clock (compile_headerContains hname m) _
    (mt (ready_termMatch ..).1 hfits)

theorem exists_search_headerContains_of_new (hfits : (Criterion.headerContains name value).Fits)
    {id : MessageId} (hnone : ∀ t, s.find? (postingCell m id ⟨f, t⟩) = none) (flags : MessageFlags)
    (ps : Postings) :
    ∃ ids, ((search ⟨mode, policy, none⟩ clock m [.headerContains name value]).run
        (Operation.run k (.store m id flags ps))).1 = .ok ⟨ids, true⟩ ∧
      (id ∈ ids.toList ↔ ∃ t ∈ ps.termsOf f, (Term.ofText value).bytes <:+: t.bytes) := by
  have hf : f ≠ .flags := ne_flags_of_ofHeader_eq hname
  obtain ⟨ids, hsearch, hids⟩ := exists_search_headerContains hname (hk.run (store m id flags ps))
    m mode policy clock hfits
  refine ⟨ids, hsearch, (hids id).trans (exists_congr fun t => ?_)⟩
  rw [isSome_find?_store_iff s m id flags hf, hnone, and_comm]
  simp

end HeaderContains

/-- A value that stands in a token of a stored text is found, from then on until the message is
deleted, unless there is no room for a pattern. It is found in single terms only. -/
theorem header_search_finds_within_token {σ : Type} [RowStore σ] {k : σ} {before : MemoryStore}
    (hk : RowStore.AnswersAs k before) {ps : Postings} {f : Field} {name text : String}
    (hname : Field.ofHeader name = f) (hps : ps.HasText f text) (m : MailboxId) (id : MessageId)
    (flags : MessageFlags) {later : List Operation} (hlater : ∀ op ∈ later, ¬ op.Deletes m id)
    (value : String) (mode : ScanMode) (policy : FailurePolicy) (clock : Clock) :
    let after := Operation.runAll k (.store m id flags ps :: later)
    let found := ((search ⟨mode, policy, none⟩ clock m [.headerContains name value]).run after).1
    ((Criterion.headerContains name value).Fits → ∃ ids, found = .ok ⟨ids, true⟩ ∧
      (∀ token ∈ Tokens.ofChars text.toList, Text.OccursIn value.toList token → id ∈ ids.toList) ∧
      ∀ id', id' ∈ ids.toList ↔ ∃ t stored, (Term.ofText value).bytes <:+: t.bytes ∧
        ((Script.getCell (postingCell m id' ⟨f, t⟩)).run after).1 = .ok (some stored)) ∧
    (¬ (Criterion.headerContains name value).Fits → ∃ pattern,
      found = .error (.filter (.badPattern pattern))) := by
  intro after found
  have hafter : RowStore.AnswersAs after
      (Operation.runAll before (.store m id flags ps :: later)) := hk.runAll _
  have hf : f ≠ .flags := ne_flags_of_ofHeader_eq hname
  refine ⟨fun hfits => ?_, search_headerContains_eq_error hname hafter m mode policy clock⟩
  obtain ⟨ids, hsearch, hids⟩ := exists_search_headerContains hname hafter m mode policy clock hfits
  refine ⟨ids, hsearch, fun token htoken hwithin => ?_,
    fun id' => (hids id').trans (exists_congr fun t => ?_)⟩
  · have hholds : Holds m id ⟨f, .ofChars token⟩
        (Operation.runAll before (.store m id flags ps :: later)) := by
      refine (Holds.store (hps.mem (List.mem_map_of_mem htoken)) hf before flags).runAll ?_ hlater
      exact fun h => hf (congrArg Posting.field h)
    refine (hids id).2 ⟨.ofChars token, Term.ofText_infix_ofChars hwithin, ?_⟩
    exact Option.isSome_iff_exists.2 ⟨presence, hholds⟩
  · rw [hafter, Script.run_getCell, Option.isSome_iff_exists]
    simp

def fullName : String := "Ann Lee <ann@ex.org>"

def fullNamePostings : Postings := (∅ : Postings).addText .sender fullName

theorem ofHeader_from : Field.ofHeader "From" = .sender := by
  decide +kernel

theorem ofChars_fullName :
    Tokens.ofChars fullName.toList = ["Ann".toList, "Lee".toList, "ann@ex.org".toList] := by
  have hchars : fullName.toList = ['A', 'n', 'n', ' ', 'L', 'e', 'e', ' ', '<', 'a', 'n', 'n', '@',
    'e', 'x', '.', 'o', 'r', 'g', '>'] := rfl
  rw [hchars]
  decide +kernel

theorem header_search_finds_part_of_address :
    Field.ofHeader "From" = .sender ∧ fullNamePostings.HasText .sender fullName ∧
      "ann@ex.org".toList ∈ Tokens.ofChars fullName.toList ∧
      Text.OccursIn "N@EX".toList "ann@ex.org".toList ∧
      (Criterion.headerContains "From" "N@EX").Fits ∧
      ∃ ids, ((search ⟨.client, .partialResult, none⟩ .still (.ofNat 7)
          [.headerContains "From" "N@EX"]).run (Operation.runAll (∅ : KeyedStore)
            [.store (.ofNat 7) 7 ∅ fullNamePostings, .delete (.ofNat 7) 8])).1 = .ok ⟨ids, true⟩ ∧
        7 ∈ ids.toList := by
  have hps : fullNamePostings.HasText .sender fullName := Postings.hasText_addText _ _ _
  have hlater : ∀ op ∈ [Operation.delete (.ofNat 7) 8], ¬ op.Deletes (.ofNat 7) 7 := by
    rw [List.forall_mem_singleton]
    rintro ⟨-, hid⟩
    revert hid
    decide
  have htoken : "ann@ex.org".toList ∈ Tokens.ofChars fullName.toList := by
    simp [ofChars_fullName]
  have hwithin : Text.OccursIn "N@EX".toList "ann@ex.org".toList :=
    ⟨"n@ex".toList, ⟨"an".toList, ".org".toList, by decide⟩, by decide⟩
  have hfits : (Criterion.headerContains "From" "N@EX").Fits := by
    change (Term.ofText "N@EX").bytes.length ≤ Criterion.termLimit
    decide +kernel
  obtain ⟨ids, hsearch, hids, -⟩ :=
    (header_search_finds_within_token KeyedStore.Agrees.empty.answersAs ofHeader_from hps (.ofNat 7)
      7 ∅ hlater "N@EX" .client .partialResult .still).1 hfits
  exact ⟨ofHeader_from, hps, htoken, hwithin, hfits, ids, hsearch, hids _ htoken hwithin⟩

/-- A name of two words is not found, since each word is a term of its own. -/
theorem header_search_misses_full_name :
    Field.ofHeader "From" = .sender ∧ fullNamePostings.HasText .sender fullName ∧
      "Ann Lee".toList <:+: fullName.toList ∧
      (∃ c ∈ "Ann Lee".toList, Text.isAlphanumeric c = true) ∧
      Text.trim "Ann Lee".toList = "Ann Lee".toList ∧
      ∀ mode policy clock, ∃ ids, ((search ⟨mode, policy, none⟩ clock (.ofNat 7)
        [.headerContains "From" "Ann Lee"]).run (Operation.run (∅ : MemoryStore)
          (.store (.ofNat 7) 7 ∅ fullNamePostings))).1 = .ok ⟨ids, true⟩ ∧ 7 ∉ ids.toList := by
  have hchars : "Ann Lee".toList = ['A', 'n', 'n', ' ', 'L', 'e', 'e'] := rfl
  have hinfix : "Ann Lee".toList <:+: fullName.toList := ⟨[], " <ann@ex.org>".toList, rfl⟩
  have htrim : Text.trim "Ann Lee".toList = "Ann Lee".toList := by
    rw [hchars]
    decide +kernel
  have hfits : (Criterion.headerContains "From" "Ann Lee").Fits := by
    change (Term.ofText "Ann Lee").bytes.length ≤ Criterion.termLimit
    decide +kernel
  have hterms : ∀ t ∈ tokenize fullName, ¬ (Term.ofText "Ann Lee").bytes <:+: t.bytes := by
    rw [tokenize, ofChars_fullName]
    decide +kernel
  have hnone : ∀ t, (∅ : MemoryStore).find? (postingCell (.ofNat 7) 7 ⟨.sender, t⟩) = none :=
    fun _ => rfl
  refine ⟨ofHeader_from, Postings.hasText_addText _ _ _, hinfix, ⟨'A', by decide, by decide⟩, htrim,
    fun mode policy clock => ?_⟩
  obtain ⟨ids, hsearch, hids⟩ := exists_search_headerContains_of_new ofHeader_from
    (RowStore.AnswersAs.refl ∅) (.ofNat 7) mode policy clock hfits hnone ∅ fullNamePostings
  refine ⟨ids, hsearch, fun hid => ?_⟩
  obtain ⟨t, ht, hwithin⟩ := hids.1 hid
  rw [fullNamePostings, Postings.mem_termsOf_addText] at ht
  rcases ht with ⟨-, ht⟩ | ht
  · exact hterms t ht hwithin
  · cases ht

end Index

end MailIndex
