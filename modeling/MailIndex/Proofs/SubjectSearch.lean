import MailIndex.Proofs.Extraction
import MailIndex.Proofs.Search
import MailIndex.Proofs.Store.Agreement
import MailIndex.Proofs.Subject

namespace MailIndex

namespace Subject

open Text

inductive Marks : List Char → Prop
  | nil : Marks []
  | blank {c : Char} {s : List Char} : isBlank c = true → Marks s → Marks (c :: s)
  | marker {mark s : List Char} : IsMarker mark → Marks s → Marks (mark ++ s)
  | tag {tag s : List Char} : ']' ∉ tag → Marks s → Marks ('[' :: (tag ++ ']' :: s))
  | trailer {trailer s : List Char} : IsTrailer trailer → Marks s → Marks (trailer ++ s)

section Marks

variable {a b s : List Char}

theorem Marks.append (ha : Marks a) (hb : Marks b) : Marks (a ++ b) := by
  induction ha with
  | nil => exact hb
  | blank hc _ ih => exact .blank hc ih
  | marker hmark _ ih =>
    rw [List.append_assoc]
    exact .marker hmark ih
  | tag htag _ ih =>
    rw [List.cons_append, List.append_assoc]
    exact .tag htag ih
  | trailer htrailer _ ih =>
    rw [List.append_assoc]
    exact .trailer htrailer ih

theorem Marks.of_blank (h : ∀ c ∈ s, isBlank c = true) : Marks s := by
  induction s with
  | nil => exact .nil
  | cons c s ih =>
    rw [List.forall_mem_cons] at h
    exact .blank h.1 (ih h.2)

theorem Marks.of_trimStart (h : Marks (trimStart s)) : Marks s := by
  obtain ⟨gap, hgap, hs⟩ := exists_gap s
  rw [← hs]
  exact (Marks.of_blank hgap).append h

theorem Marks.of_trimEnd (h : Marks (trimEnd s)) : Marks s := by
  obtain ⟨gap, hgap, hs⟩ := exists_gap_end s
  rw [← hs]
  exact h.append (.of_blank hgap)

theorem Marks.of_dropMarker (h : Marks (dropMarker s)) : Marks s := by
  rcases dropMarker_cases s with ⟨mark, rest, rfl, hmark, hdrop⟩ | ⟨-, hdrop⟩
  · rw [hdrop] at h
    exact .marker hmark h.of_trimStart
  · rwa [hdrop] at h

theorem Marks.of_dropTag (h : Marks (dropTag s)) : Marks s := by
  rcases dropTag_cases s with ⟨tag, rest, rfl, htag, -, hdrop⟩ | ⟨-, hdrop⟩
  · rw [hdrop] at h
    exact .tag htag h.of_trimStart
  · rwa [hdrop] at h

theorem Marks.of_dropTrailer (h : Marks (dropTrailer s)) : Marks s := by
  rcases dropTrailer_cases s with ⟨front, trailer, rfl, htrailer, hdrop⟩ | ⟨-, hdrop⟩
  · rw [hdrop] at h
    have htail : Marks trailer := by simpa using Marks.trailer htrailer .nil
    exact h.of_trimEnd.append htail
  · rwa [hdrop] at h

theorem Marks.of_baseChars (h : Marks (baseChars s)) : Marks s := by
  by_contra hs
  have htrim : ¬ Marks (trim s) := fun h => hs h.of_trimEnd.of_trimStart
  have hround : ∀ t, ¬ Marks t → ¬ Marks (round t) :=
    fun t ht h => ht h.of_dropTrailer.of_dropTag.of_dropMarker
  exact rounds_induction hround htrim h

end Marks

end Subject

namespace Index

open Mime MailIndex.Filter Subject

theorem storeRawWith_eq_store {parse : Bytes → Option Message} {raw : Bytes} {msg : Message}
    (hraw : parse raw = some msg) (m : MailboxId) (id : MessageId) (flags : MessageFlags)
    (date : Millis) :
    storeRawWith parse m id flags raw date = store m id flags (Extraction.ofMessage msg date) := by
  rw [storeRawWith, Extraction.extractWith?_eq_some hraw]

section Find

variable {σ : Type} [RowStore σ] {k : σ} {s : MemoryStore} (hk : RowStore.AnswersAs k s)
  (m : MailboxId) (mode : ScanMode) (policy : FailurePolicy) (clock : Clock)
include hk

theorem exists_search_headerExists (name : String) :
    ∃ ids, ((search ⟨mode, policy, none⟩ clock m [.headerExists name]).run k).1 =
        .ok ⟨ids, true⟩ ∧
      ∀ id, id ∈ ids.toList ↔
        ∃ t, (s.find? (postingCell m id ⟨.ofHeader name, t⟩)).isSome = true := by
  have hcompile : Query.compile m [.headerExists name] =
      .ok (.rowStarts (RowKey.encode ⟨m, .ofHeader name, .empty⟩)) := rfl
  obtain ⟨ids, hsearch, hids⟩ :=
    exists_search_eq_ok hk mode policy clock hcompile ready_rowStarts
  refine ⟨ids, hsearch, fun id => (hids id).trans ?_⟩
  simp only [passes_rowStarts, RowKey.encode_prefix_encode_iff, Option.isSome_iff_exists]
  constructor
  · rintro ⟨⟨f, t⟩, value, hfind, -, rfl, -⟩
    exact ⟨t, value, hfind⟩
  · rintro ⟨t, value, hfind⟩
    refine ⟨⟨.ofHeader name, t⟩, value, hfind, trivial, ?_, List.nil_prefix⟩
    dsimp only

variable {parse : Bytes → Option Message} {raw : Bytes} {msg : Message}
  (hraw : parse raw = some msg) {subject : List Char} (hsubject : msg.subject? = some subject)
  (id : MessageId) (flags : MessageFlags) (date : Millis)
include hraw hsubject

theorem exists_search_subject :
    ∃ ids, ((search ⟨mode, policy, none⟩ clock m [.headerExists "Subject"]).run
        ((storeRawWith parse m id flags raw date).run k).2).1 = .ok ⟨ids, true⟩ ∧
      (id ∈ ids.toList ↔ baseChars subject ≠ [] ∨
        ∃ t, (s.find? (postingCell m id ⟨.baseSubject, t⟩)).isSome = true) := by
  have hfield : Field.ofHeader "Subject" = .baseSubject := by decide +kernel
  rw [storeRawWith_eq_store hraw]
  obtain ⟨ids, hsearch, hids⟩ := exists_search_headerExists (hk.run _) m mode policy clock "Subject"
  refine ⟨ids, hsearch, (hids id).trans ?_⟩
  rw [hfield]
  simp only [isSome_find?_store_iff s m id flags (by decide : Field.baseSubject ≠ .flags),
    Extraction.mem_baseSubject_ofMessage, Extraction.IsSubjectTerm, hsubject, exists_or]
  refine or_congr_left ?_
  constructor
  · rintro ⟨-, s, ⟨⟩, hs, -⟩
    exact hs
  · exact fun hs => ⟨_, subject, rfl, hs, rfl⟩

end Find

/-- A message that is stored with a subject is found by it just if the subject has more than marks,
or if another one was stored for the message before. -/
theorem subject_search_finds {σ : Type} [RowStore σ] {k : σ} {before : MemoryStore}
    (hk : RowStore.AnswersAs k before) {parse : Bytes → Option Message} {raw : Bytes}
    {msg : Message} (hraw : parse raw = some msg) {subject : List Char}
    (hsubject : msg.subject? = some subject) (m : MailboxId) (id : MessageId)
    (flags : MessageFlags) (date : Millis) (mode : ScanMode) (policy : FailurePolicy)
    (clock : Clock) :
    let stored := (storeRawWith parse m id flags raw date).run k
    stored.1 = .ok () ∧
    (∃ ps, extractWith? parse raw date = some ps ∧ ∀ t, t ∈ ps.termsOf .baseSubject ↔
      baseChars subject ≠ [] ∧ t = .ofChars (baseChars subject)) ∧
    (∃ ids, ((search ⟨mode, policy, none⟩ clock m [.headerExists "Subject"]).run stored.2).1 =
        .ok ⟨ids, true⟩ ∧
      (id ∈ ids.toList ↔ baseChars subject ≠ [] ∨ ∃ t value,
        ((Script.getCell (postingCell m id ⟨.baseSubject, t⟩)).run k).1 = .ok (some value))) ∧
    (baseChars subject = [] → Marks subject) := by
  intro stored
  refine ⟨?_, ⟨_, Extraction.extractWith?_eq_some hraw date, fun t => ?_⟩, ?_, fun hempty => ?_⟩
  · rw [hk, storeRawWith_eq_store hraw]
    exact congrArg Prod.fst (run_store before m id flags _)
  · rw [Extraction.mem_baseSubject_ofMessage, Extraction.IsSubjectTerm, hsubject]
    simp
  · obtain ⟨ids, hsearch, hids⟩ :=
      exists_search_subject hk m mode policy clock hraw hsubject id flags date
    refine ⟨ids, hsearch, hids.trans (or_congr_right (exists_congr fun t => ?_))⟩
    rw [hk, Script.run_getCell, Option.isSome_iff_exists]
    simp
  · refine .of_baseChars ?_
    rw [hempty]
    exact .nil

def replyToHello : Bytes := Bytes.ofAscii "Subject: Re: hello\r\n\r\nhi\r\n"

theorem subject_search_finds_reply :
    ∃ msg, Message.parse? replyToHello = some msg ∧ msg.subject? = some "Re: hello".toList ∧
      ∃ ids, ((search ⟨.client, .propagate, none⟩ .still (.ofNat 7)
          [.headerExists "Subject"]).run
            ((storeRaw (.ofNat 7) 7 ∅ replyToHello 0).run (∅ : KeyedStore)).2).1 =
          .ok ⟨ids, true⟩ ∧ 7 ∈ ids.toList := by
  have hread : (Message.parse? replyToHello).map (·.subject?) = some (some "Re: hello".toList) := by
    decide +kernel
  obtain ⟨msg, hraw, hsubject⟩ := Option.map_eq_some_iff.1 hread
  obtain ⟨-, -, ⟨ids, hsearch, hids⟩, -⟩ :=
    subject_search_finds KeyedStore.Agrees.empty.answersAs hraw hsubject (.ofNat 7) 7 ∅ 0 .client
      .propagate .still
  exact ⟨msg, hraw, hsubject, ids, hsearch, hids.2 (.inl (by decide +kernel))⟩

def bareReply : Bytes := Bytes.ofAscii "Subject: Re:\r\n\r\nhi\r\n"

theorem subject_search_misses_bare_reply :
    (∃ msg, Message.parse? bareReply = some msg ∧ msg.subject? = some "Re:".toList) ∧
      Text.trim "Re:".toList ≠ [] ∧ (∃ ps, extract? bareReply 0 = some ps ∧
        ps.termsOf .baseSubject = []) ∧
      ∀ mode policy clock, ∃ ids, ((search ⟨mode, policy, none⟩ clock (.ofNat 7)
        [.headerExists "Subject"]).run
          ((storeRaw (.ofNat 7) 7 ∅ bareReply 0).run (∅ : MemoryStore)).2).1 = .ok ⟨ids, true⟩ ∧
        7 ∉ ids.toList := by
  have hread : (Message.parse? bareReply).map (·.subject?) = some (some "Re:".toList) := by
    decide +kernel
  obtain ⟨msg, hraw, hsubject⟩ := Option.map_eq_some_iff.1 hread
  have hbase : baseChars "Re:".toList = [] := by decide +kernel
  refine ⟨⟨msg, hraw, hsubject⟩, by decide, ⟨_, Extraction.extractWith?_eq_some hraw 0, ?_⟩,
    fun mode policy clock => ?_⟩
  · refine List.eq_nil_iff_forall_not_mem.2 fun t ht => ?_
    obtain ⟨s, hs, hne, -⟩ := (Extraction.mem_baseSubject_ofMessage msg 0).1 ht
    rw [hsubject, Option.some.injEq] at hs
    exact hne (hs ▸ hbase)
  · obtain ⟨ids, hsearch, hids⟩ := exists_search_subject (RowStore.AnswersAs.refl ∅) (.ofNat 7) mode
      policy clock hraw hsubject 7 ∅ 0
    refine ⟨ids, hsearch, fun hid => ?_⟩
    rcases hids.1 hid with hne | ⟨t, ht⟩
    · exact hne hbase
    · cases ht

end Index

end MailIndex
