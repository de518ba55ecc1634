import MailIndex.Proofs.Search
import MailIndex.Proofs.Store.Agreement

namespace MailIndex

open MailIndex.Filter MailIndex.Query

theorem Query.terms_eq_tokenize {value : String} (h : tokenize value ≠ []) :
    terms value = tokenize value := by
  rw [terms]
  split
  · rename_i hnil
    exact absurd hnil h
  · rfl

namespace Criterion

inductive Seeks (value : String) (f : Field) : Criterion → Prop
  | text {scope : TextScope} : f ∈ scopeFields scope → Seeks value f (.text value scope)
  | headerAddress {name : String} : .ofHeader name = f → Seeks value f (.headerAddress name value)

section Seeks

variable {value : String} {f : Field} {c : Criterion} (h : c.Seeks value f)
  (hvalue : tokenize value ≠ []) (m : MailboxId)
include h hvalue

theorem Seeks.fits_iff : c.Fits ↔ ∀ t ∈ tokenize value, t.bytes.length ≤ termLimit := by
  rw [← terms_eq_tokenize hvalue]
  cases h <;> rfl

theorem Seeks.exists_compileOne_eq : ∃ fields, f ∈ fields ∧
    compileOne m c = .ok (.anyOf (termMatches m fields (tokenize value))) := by
  cases h with
  | text hscope =>
    refine ⟨_, hscope, ?_⟩
    rw [compileOne, terms_eq_tokenize hvalue]
    split
    · contradiction
    · rfl
  | headerAddress hname =>
    refine ⟨[f], List.mem_singleton_self f, ?_⟩
    rw [compileOne, terms_eq_tokenize hvalue, hname]
    split
    · contradiction
    · rw [termMatches, List.flatMap_singleton]

theorem Seeks.not_isAll : ¬ c.IsAll := by
  intro hall
  cases h with
  | text hscope =>
    have hnil : terms value = [] := terms_eq_nil_iff.2 hall
    exact hvalue ((terms_eq_tokenize hvalue).symm.trans hnil)
  | headerAddress hname => exact hall

theorem Seeks.exists_compile_eq : ∃ g, compile m [c] = .ok g ∧ (g.Ready ↔ c.Fits) ∧
    (c.Fits → ∀ t ∈ tokenize value, ∀ whole : Term, t.bytes <:+: whole.bytes → ∀ cell,
      g.Passes (RowKey.encode ⟨m, f, whole⟩) cell) := by
  obtain ⟨fields, hf, hone⟩ := h.exists_compileOne_eq hvalue m
  have hfields : fields ≠ [] := List.ne_nil_of_mem hf
  have hcompile :
      compile m [c] = .ok (.anyOf [.anyOf (termMatches m fields (tokenize value))]) := by
    rw [compile, List.mapM_cons, hone]
    rfl
  refine ⟨_, hcompile, ?_, fun hfits t ht whole hwhole cell => ?_⟩
  · rw [ready_compile_iff hcompile, AllFit]
    simp [h.not_isAll hvalue]
  · rw [passes_anyOf_singleton (compiles hone).alternatives_ne_nil,
      passes_anyOf (alternatives_termMatches_ne_nil hfields hvalue), ready_termMatches hfields]
    have hroom := (h.fits_iff hvalue).1 hfits
    refine .inr ⟨hroom, _, mem_termMatches.2 ⟨f, hf, t, ht, rfl⟩, ?_⟩
    exact (passes_termMatch m f t _ cell).2 ⟨hroom t ht, rfl, rfl, hwhole⟩

end Seeks

end Criterion

namespace Index

section Holds

variable {σ : Type} [RowStore σ] {k : σ} {s : MemoryStore} (hk : RowStore.AnswersAs k s)
  {m : MailboxId} {id : MessageId} {f : Field} {whole : Term}
include hk

theorem getCell_eq_of_holds {p : Posting} (h : Holds m id p s) :
    ((Script.getCell (postingCell m id p)).run k).1 = .ok (some presence) := by
  rw [hk, Script.run_getCell, h]

variable {value : String} {c : Criterion} (hc : c.Seeks value f) (hvalue : tokenize value ≠ [])
  (mode : ScanMode) (policy : FailurePolicy) (clock : Clock)
include hc hvalue

theorem exists_search_of_holds (hfits : c.Fits) (h : Holds m id ⟨f, whole⟩ s) {t : Term}
    (ht : t ∈ tokenize value) (hwithin : t.bytes <:+: whole.bytes) :
    ∃ ids, ((search ⟨mode, policy, none⟩ clock m [c]).run k).1 = .ok ⟨ids, true⟩ ∧
      id ∈ ids.toList := by
  obtain ⟨g, hcompile, hready, hpasses⟩ := hc.exists_compile_eq hvalue m
  obtain ⟨ids, hsearch, hids⟩ :=
    exists_search_eq_ok hk mode policy clock hcompile (hready.2 hfits)
  exact ⟨ids, hsearch, (hids id).2 ⟨⟨f, whole⟩, presence, h, hpasses hfits t ht whole hwithin _⟩⟩

theorem search_eq_error_of_not_fits (hfits : ¬ c.Fits) :
    ∃ pattern, ((search ⟨mode, policy, none⟩ clock m [c]).run k).1 =
      .error (.filter (.badPattern pattern)) := by
  obtain ⟨g, hcompile, hready, -⟩ := hc.exists_compile_eq hvalue m
  exact search_eq_error hk clock hcompile _ (mt hready.1 hfits)

end Holds

/-- A text that was stored is found by each of its parts, whatever their case, from then on until
the message is deleted, unless there is no room for a pattern. -/
theorem search_finds_part {σ : Type} [RowStore σ] {k : σ} {before : MemoryStore}
    (hk : RowStore.AnswersAs k before) {ps : Postings} {f : Field} {text part : String}
    (hps : ps.HasText f text) (hf : f ≠ .flags) (m : MailboxId) (id : MessageId)
    (flags : MessageFlags) {later : List Operation} (hlater : ∀ op ∈ later, ¬ op.Deletes m id)
    (hpart : Text.OccursIn part.toList text.toList)
    (halphanumeric : ∃ c ∈ part.toList, Text.isAlphanumeric c = true) :
    (∀ t ∈ tokenize part, ∃ whole ∈ tokenize text, t.bytes <:+: whole.bytes ∧
      ((Script.getCell (postingCell m id ⟨f, whole⟩)).run
        (Operation.runAll k (.store m id flags ps :: later))).1 = .ok (some presence)) ∧
    ∀ c : Criterion, c.Seeks part f → ∀ mode policy clock,
      (c.Fits → ∃ ids, ((search ⟨mode, policy, none⟩ clock m [c]).run
        (Operation.runAll k (.store m id flags ps :: later))).1 = .ok ⟨ids, true⟩ ∧
          id ∈ ids.toList) ∧
      (¬ c.Fits → ∃ pattern, ((search ⟨mode, policy, none⟩ clock m [c]).run
        (Operation.runAll k (.store m id flags ps :: later))).1 =
          .error (.filter (.badPattern pattern))) := by
  have hafter : RowStore.AnswersAs (Operation.runAll k (.store m id flags ps :: later))
      (Operation.runAll before (.store m id flags ps :: later)) := hk.runAll _
  have hholds : ∀ whole ∈ tokenize text,
      Holds m id ⟨f, whole⟩ (Operation.runAll before (.store m id flags ps :: later)) := by
    intro whole hwhole
    refine (Holds.store (hps.mem hwhole) hf before flags).runAll ?_ hlater
    exact fun h => hf (congrArg Posting.field h)
  obtain ⟨c, hc, halnum⟩ := halphanumeric
  have hne : tokenize part ≠ [] := tokenize_ne_nil hc halnum
  refine ⟨fun t ht => ?_, fun c hseeks mode policy clock => ⟨fun hfits => ?_, fun hfits => ?_⟩⟩
  · obtain ⟨whole, hwhole, hwithin⟩ := exists_mem_tokenize hpart ht
    exact ⟨whole, hwhole, hwithin, getCell_eq_of_holds hafter (hholds whole hwhole)⟩
  · obtain ⟨t, ht⟩ := List.exists_mem_of_ne_nil _ hne
    obtain ⟨whole, hwhole, hwithin⟩ := exists_mem_tokenize hpart ht
    exact exists_search_of_holds hafter hseeks hne mode policy clock hfits (hholds whole hwhole) ht
      hwithin
  · exact search_eq_error_of_not_fits hafter hseeks hne mode policy clock hfits

def senderPostings : Postings := (∅ : Postings).addText .sender "Ann <ann.b@ex-ample.org>"

theorem search_finds_part_of_address :
    Text.OccursIn "N.B@EX".toList "Ann <ann.b@ex-ample.org>".toList ∧
      (Criterion.headerAddress "From" "N.B@EX").Fits ∧
      ∃ ids, ((search ⟨.colocated, .propagate, none⟩ .still (.ofNat 7)
          [.headerAddress "From" "N.B@EX"]).run (Operation.runAll (∅ : KeyedStore)
            [.store (.ofNat 7) 7 ∅ senderPostings, .delete (.ofNat 7) 8])).1 = .ok ⟨ids, true⟩ ∧
        7 ∈ ids.toList := by
  have hps : senderPostings.HasText .sender "Ann <ann.b@ex-ample.org>" :=
    Postings.hasText_addText _ _ _
  have hlater : ∀ op ∈ [Operation.delete (.ofNat 7) 8], ¬ op.Deletes (.ofNat 7) 7 := by
    rw [List.forall_mem_singleton]
    rintro ⟨-, hid⟩
    revert hid
    decide
  have hpart : Text.OccursIn "N.B@EX".toList "Ann <ann.b@ex-ample.org>".toList :=
    ⟨"n.b@ex".toList, ⟨"Ann <an".toList, "-ample.org>".toList, by decide⟩, by decide⟩
  have hfits : (Criterion.headerAddress "From" "N.B@EX").Fits := by
    change ∀ t ∈ terms "N.B@EX", t.bytes.length ≤ Criterion.termLimit
    decide +kernel
  have hseeks : (Criterion.headerAddress "From" "N.B@EX").Seeks "N.B@EX" .sender :=
    .headerAddress (by decide +kernel)
  have hfound := (search_finds_part KeyedStore.Agrees.empty.answersAs hps (by decide) (.ofNat 7) 7
    ∅ hlater hpart ⟨'N', by decide, by decide⟩).2 _ hseeks .colocated .propagate .still
  exact ⟨hpart, hfits, hfound.1 hfits⟩

def longText (n : Nat) : String := String.ofList (List.replicate n 'A')

section LongText

variable (n : Nat)

theorem eq_of_mem_longText {c : Char} (h : c ∈ (longText n).toList) : c = 'A' := by
  rw [longText, String.toList_ofList] at h
  exact List.eq_of_mem_replicate h

theorem mem_longText (hn : n ≠ 0) : 'A' ∈ (longText n).toList := by
  rw [longText, String.toList_ofList, List.mem_replicate]
  exact ⟨hn, rfl⟩

theorem isAlphanumeric_of_mem_longText :
    ∀ c ∈ (longText n).toList, Text.isAlphanumeric c = true := by
  intro c hc
  rw [eq_of_mem_longText n hc]
  decide

theorem not_fits_longText (hn : Criterion.termLimit < n) :
    ¬ (Criterion.text (longText n) .body).Fits := by
  intro hfits
  have hmem := mem_longText n (Nat.ne_zero_of_lt hn)
  have halphanumeric := isAlphanumeric_of_mem_longText n
  have hseeks : (Criterion.text (longText n) .body).Seeks (longText n) .body := .text (by decide)
  obtain ⟨token, htoken, hwithin⟩ := Tokens.exists_mem_ofChars_of_isAlphanumeric
    (List.infix_refl _) halphanumeric (List.ne_nil_of_mem hmem)
  have hfit := (hseeks.fits_iff (tokenize_ne_nil hmem (halphanumeric 'A' hmem))).1 hfits _
    (List.mem_map_of_mem htoken)
  have hlength : (Term.ofChars (longText n).toList).bytes.length ≤
      (Term.ofChars token).bytes.length :=
    (Text.encode_infix_encode_iff.2 (Text.upper_infix_upper hwithin)).length_le
  rw [longText, String.toList_ofList, length_ofChars_replicate] at hlength
  exact absurd (hlength.trans hfit) (Nat.not_le_of_lt hn)

theorem search_longText_ne_ok (hn : Criterion.termLimit < n) (s : MemoryStore) (m : MailboxId)
    (mode : ScanMode) (policy : FailurePolicy) (clock : Clock) (ids : IdSet) :
    ((search ⟨mode, policy, none⟩ clock m [.text (longText n) .body]).run s).1 ≠
      .ok ⟨ids, true⟩ := by
  have hmem := mem_longText n (Nat.ne_zero_of_lt hn)
  have hseeks : (Criterion.text (longText n) .body).Seeks (longText n) .body := .text (by decide)
  obtain ⟨pattern, hpattern⟩ := search_eq_error_of_not_fits (RowStore.AnswersAs.refl s) (m := m)
    hseeks (tokenize_ne_nil hmem (isAlphanumeric_of_mem_longText n 'A' hmem)) mode policy clock
    (not_fits_longText n hn)
  rw [hpattern]
  nofun

end LongText

theorem search_misses_longText :
    ((∅ : Postings).addText .body (longText 400000)).HasText .body (longText 400000) ∧
      Text.OccursIn (longText 400000).toList (longText 400000).toList ∧
      (∃ c ∈ (longText 400000).toList, Text.isAlphanumeric c = true) ∧
      (Criterion.text (longText 400000) .body).Seeks (longText 400000) .body ∧
      ∀ mode policy clock ids, ((search ⟨mode, policy, none⟩ clock (.ofNat 7)
        [.text (longText 400000) .body]).run (Operation.runAll (∅ : MemoryStore)
          [.store (.ofNat 7) 7 ∅ ((∅ : Postings).addText .body (longText 400000))])).1 ≠
            .ok ⟨ids, true⟩ := by
  have hmem := mem_longText 400000 (by decide)
  refine ⟨Postings.hasText_addText _ _ _, .refl _, ⟨'A', hmem, ?_⟩, .text (by decide), ?_⟩
  · exact isAlphanumeric_of_mem_longText 400000 'A' hmem
  · exact search_longText_ne_ok 400000 (by decide) _ _

end Index

end MailIndex
