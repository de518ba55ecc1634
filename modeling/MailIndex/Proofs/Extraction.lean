import MailIndex.Extraction
import MailIndex.Proofs.Postings

namespace MailIndex

open Mime

namespace Extraction

section Terms

variable {ps : Postings} {f g : Field} {t : Term}

theorem mem_termsOf_addHeader (hf : f ≠ .headers) (hf' : f ≠ .headerValue) (h : Header) :
    t ∈ (addHeader ps h).termsOf f ↔ t ∈ ps.termsOf f := by
  simp [addHeader, Postings.mem_termsOf_addText, hf, hf']

theorem mem_termsOf_addAddresses (hg : f ≠ g) (l : AddressList) :
    t ∈ (addAddresses ps g l).termsOf f ↔ t ∈ ps.termsOf f := by
  apply Postings.mem_termsOf_foldl
  intro ps text
  simp [Postings.mem_termsOf_addText, hg]

theorem mem_termsOf_addFirst {display : Option Field} (hg : f ≠ g) (hdisplay : display ≠ some f)
    (l : AddressList) :
    t ∈ (addFirst ps g display l).termsOf f ↔ t ∈ ps.termsOf f := by
  rw [addFirst]
  cases firstMailbox? l with
  | none => rfl
  | some found =>
    cases display with
    | none => simp [Postings.mem_termsOf_add, hg]
    | some display =>
      have : f ≠ display := by
        rintro rfl
        exact hdisplay rfl
      simp [Postings.mem_termsOf_add, hg, this]

def IsSubjectTerm (m : Message) (t : Term) : Prop :=
  ∃ s, m.subject? = some s ∧ Subject.baseChars s ≠ [] ∧ t = .ofChars (Subject.baseChars s)

theorem mem_termsOf_addSubject (m : Message) :
    t ∈ (addSubject ps m).termsOf f ↔
      (f = .baseSubject ∧ IsSubjectTerm m t) ∨ t ∈ ps.termsOf f := by
  rw [addSubject, IsSubjectTerm]
  cases m.subject? with
  | none => simp
  | some s => cases h : Subject.baseChars s <;> simp [h, Postings.mem_termsOf_add]

theorem mem_termsOf_ofMessage (hf : f ∈ [.body, .baseSubject, .sentDate]) (m : Message)
    (date : Millis) :
    t ∈ (ofMessage m date).termsOf f ↔
      (f = .sentDate ∧ t = .sentDate date) ∨
        (f = .body ∧ ∃ text ∈ bodyTexts m, t ∈ tokenize (String.ofList text)) ∨
          f = .baseSubject ∧ IsSubjectTerm m t := by
  have hne : ∀ g ∉ [Field.body, .baseSubject, .sentDate], f ≠ g := by
    rintro g hg rfl
    exact hg hf
  have hdisplay : ∀ g ∉ [Field.body, .baseSubject, .sentDate], some g ≠ some f :=
    fun g hg h => hne g hg (Option.some.inj h).symm
  simp only [ofMessage, Postings.mem_termsOf_add, Postings.mem_termsOf_foldl_addText,
    mem_termsOf_addSubject]
  rw [mem_termsOf_addFirst (hne _ (by decide)) (Option.some_ne_none f).symm,
    mem_termsOf_addFirst (hne _ (by decide)) (hdisplay _ (by decide)),
    mem_termsOf_addFirst (hne _ (by decide)) (hdisplay _ (by decide)),
    mem_termsOf_addAddresses (hne _ (by decide)), mem_termsOf_addAddresses (hne _ (by decide)),
    mem_termsOf_addAddresses (hne _ (by decide)), mem_termsOf_addAddresses (hne _ (by decide)),
    Postings.mem_termsOf_foldl fun ps h =>
      mem_termsOf_addHeader (hne _ (by decide)) (hne _ (by decide)) h]
  simp

theorem mem_body_ofMessage (m : Message) (date : Millis) :
    t ∈ (ofMessage m date).termsOf .body ↔
      ∃ text ∈ bodyTexts m, t ∈ tokenize (String.ofList text) := by
  rw [mem_termsOf_ofMessage (by decide)]
  simp

theorem mem_baseSubject_ofMessage (m : Message) (date : Millis) :
    t ∈ (ofMessage m date).termsOf .baseSubject ↔ IsSubjectTerm m t := by
  rw [mem_termsOf_ofMessage (by decide)]
  simp

end Terms

theorem mem_takeWhile_isSome {α : Type} (l : List (Option α)) (a : α) :
    a ∈ (l.takeWhile Option.isSome).filterMap id ↔
      ∃ i : Nat, (∀ j ≤ i, l[j]?.join.isSome) ∧ l[i]?.join = some a := by
  induction l with
  | nil => simp
  | cons b l ih =>
    cases b with
    | none =>
      change a ∈ [] ↔ _
      constructor
      · intro h
        cases h
      · rintro ⟨i, hi, -⟩
        exact absurd (hi 0 (Nat.zero_le i)) (by simp)
    | some b =>
      change a ∈ b :: (l.takeWhile Option.isSome).filterMap id ↔ _
      rw [List.mem_cons, ih]
      constructor
      · rintro (rfl | ⟨i, hi, ha⟩)
        · exact ⟨0, by simp, rfl⟩
        · refine ⟨i + 1, ?_, ha⟩
          intro j hj
          cases j with
          | zero => rfl
          | succ j => exact hi j (Nat.le_of_succ_le_succ hj)
      · rintro ⟨i, hi, ha⟩
        cases i with
        | zero => exact .inl (by simpa using ha.symm)
        | succ i =>
          exact .inr ⟨i, fun j hj => hi (j + 1) (Nat.succ_le_succ hj), ha⟩

def Reaches (m : Message) (i : Nat) : Prop := ∀ j ≤ i, (m.bodyText? j).isSome

theorem mem_bodyTexts (m : Message) (text : List Char) :
    text ∈ bodyTexts m ↔ ∃ i, Reaches m i ∧ m.bodyText? i = some text :=
  mem_takeWhile_isSome m.textBody text

def IsTermOfText (m : Message) (place : Nat → Prop) (t : Term) : Prop :=
  ∃ i text, place i ∧ m.bodyText? i = some text ∧ t ∈ tokenize (String.ofList text)

theorem mem_body_ofMessage_iff (m : Message) (date : Millis) (t : Term) :
    t ∈ (ofMessage m date).termsOf .body ↔ IsTermOfText m (Reaches m) t := by
  rw [mem_body_ofMessage]
  constructor
  · rintro ⟨text, htext, ht⟩
    obtain ⟨i, hi, htext⟩ := (mem_bodyTexts m text).1 htext
    exact ⟨i, text, hi, htext, ht⟩
  · rintro ⟨i, text, hi, htext, ht⟩
    exact ⟨text, (mem_bodyTexts m text).2 ⟨i, hi, htext⟩, ht⟩

theorem extractWith?_eq_some {parse : Bytes → Option Message} {raw : Bytes} {m : Message}
    (hm : parse raw = some m) (date : Millis) :
    extractWith? parse raw date = some (ofMessage m date) :=
  congrArg (Option.map (ofMessage · date)) hm

/-- The texts up to the first gap are read, so all of them are only if the others say nothing
new. -/
theorem body_terms_of_all_texts_iff {parse : Bytes → Option Message} {raw : Bytes} {m : Message}
    (hm : parse raw = some m) (date : Millis) :
    ∃ ps, extractWith? parse raw date = some ps ∧
      (∀ t, t ∈ ps.termsOf .body ↔ IsTermOfText m (Reaches m) t) ∧
      ((∀ t, t ∈ ps.termsOf .body ↔ IsTermOfText m (fun _ => True) t) ↔
        ∀ t, IsTermOfText m (fun i => ¬ Reaches m i) t → IsTermOfText m (Reaches m) t) := by
  refine ⟨ofMessage m date, extractWith?_eq_some hm date, mem_body_ofMessage_iff m date, ?_⟩
  simp only [mem_body_ofMessage_iff]
  constructor
  · rintro h t ⟨i, text, -, ht⟩
    exact (h t).2 ⟨i, text, trivial, ht⟩
  · intro h t
    constructor
    · rintro ⟨i, text, -, ht⟩
      exact ⟨i, text, trivial, ht⟩
    · rintro ⟨i, text, -, ht⟩
      -- a text behind the gap has only terms of those before it
      by_cases hi : Reaches m i
      · exact ⟨i, text, hi, ht⟩
      · exact h t ⟨i, text, hi, ht⟩

def pictureBetween : Bytes :=
  Bytes.ofAscii (String.intercalate "\r\n" [
    "Content-Type: multipart/mixed; boundary=b", "",
    "--b", "Content-Type: text/plain", "", "first",
    "--b", "Content-Type: image/png", "", "xx",
    "--b", "Content-Type: text/plain", "", "second",
    "--b--", ""])

theorem bodyTexts_pictureBetween :
    (Message.parse? pictureBetween).map (·.textBody) =
      some [some "first".toList, none, some "second".toList] := by
  decide +kernel

theorem body_terms_of_all_texts_iff_picture :
    ∃ m ps, Message.parse? pictureBetween = some m ∧ extract? pictureBetween 0 = some ps ∧
      ∀ t, t ∈ ps.termsOf .body ↔ IsTermOfText m (Reaches m) t := by
  obtain ⟨m, hm, -⟩ := Option.map_eq_some_iff.1 bodyTexts_pictureBetween
  obtain ⟨ps, hps, hread, -⟩ := body_terms_of_all_texts_iff hm 0
  exact ⟨m, ps, hm, hps, hread⟩

theorem body_terms_of_text_after_picture :
    ∃ m ps, Message.parse? pictureBetween = some m ∧ extract? pictureBetween 0 = some ps ∧
      ¬ ∀ t, t ∈ ps.termsOf .body ↔ IsTermOfText m (fun _ => True) t := by
  obtain ⟨m, hm, htexts⟩ := Option.map_eq_some_iff.1 bodyTexts_pictureBetween
  refine ⟨m, ofMessage m 0, hm, extractWith?_eq_some hm 0, fun h => ?_⟩
  have hread : bodyTexts m = ["first".toList] := by
    rw [bodyTexts, htexts]
    rfl
  have hsecond : m.bodyText? 2 = some "second".toList := by
    rw [Message.bodyText?, htexts]
    rfl
  have hlost := (h (.ofText "second")).2 ⟨2, "second".toList, trivial, hsecond, by decide +kernel⟩
  rw [mem_body_ofMessage, hread] at hlost
  revert hlost
  decide +kernel

end Extraction

end MailIndex
