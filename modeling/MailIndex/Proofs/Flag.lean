import MailIndex.Flag
import MailIndex.Proofs.List
import MailIndex.Proofs.Order
import MailIndex.Proofs.Text.Uppercase
import MailIndex.Proofs.Text.Utf8

namespace MailIndex

namespace SystemFlag

variable {f g : SystemFlag}

theorem toList_token (f : SystemFlag) : f.token.toList = '\\' :: f.bareName.toList :=
  String.toList_append

theorem backslash_not_mem_bareName (f : SystemFlag) : '\\' ∉ f.bareName.toList := by
  cases f <;> decide

theorem bareName_prefix_inj (h : f.bareName.toList <+: g.bareName.toList) : f = g := by
  have hall : ∀ f ∈ all, ∀ g ∈ all, f.bareName.toList.isPrefixOf g.bareName.toList = true →
      f = g := by
    decide
  have hmem : ∀ f, f ∈ all := by
    intro f
    cases f <;> decide
  exact hall f (hmem f) g (hmem g) (List.isPrefixOf_iff_prefix.2 h)

theorem token_infix_iff {fs : List SystemFlag} {rest : List Char} (hrest : '\\' ∉ rest) :
    f.token.toList <:+: fs.flatMap (fun g => g.token.toList) ++ rest ↔ f ∈ fs := by
  induction fs with
  | nil =>
    refine iff_of_false (fun h => hrest (h.subset ?_)) List.not_mem_nil
    rw [toList_token]
    exact List.mem_cons_self
  | cons g fs ih =>
    rw [List.flatMap_cons, List.append_assoc, List.mem_cons, ← ih, toList_token g,
      List.cons_append, List.infix_cons_iff]
    refine or_congr ?_ ?_
    · rw [toList_token f, List.cons_prefix_cons, and_iff_right rfl]
      constructor
      · intro h
        -- whatever follows `g`, one of the two names begins the other
        rcases List.prefix_or_prefix_of_prefix h (List.prefix_append _ _) with h | h
        · exact bareName_prefix_inj h
        · exact (bareName_prefix_inj h).symm
      · rintro rfl
        exact List.prefix_append _ _
    · rw [toList_token f]
      exact cons_infix_append_iff (backslash_not_mem_bareName g)

end SystemFlag

namespace Flag

def Parsed (x : Flag) : Prop := ∃ text, parse text = .ok x

theorem parsed_system (f : SystemFlag) : Parsed (.system f) :=
  ⟨f.token, by cases f <;> decide +kernel⟩

theorem Parsed.keyword {k : String} (h : Parsed (.keyword k)) :
    k.toList ≠ [] ∧ '\\' ∉ k.toList := by
  obtain ⟨text, h⟩ := h
  simp only [parse] at h
  split at h
  · cases h
  · rename_i hname
    split at h
    · cases h
    · split at h
      · cases h
      · rename_i hbackslash
        cases h
        rw [String.toList_ofList]
        exact ⟨(not_or.1 hname).1, hbackslash⟩

theorem Parsed.upper_ne_nil {k : String} (h : Parsed (.keyword k)) : Text.upper k.toList ≠ [] :=
  mt Text.upper_eq_nil_iff.1 h.keyword.1

theorem Parsed.backslash_not_mem_upper {k : String} (h : Parsed (.keyword k)) :
    '\\' ∉ Text.upper k.toList :=
  mt Text.backslash_mem_of_mem_upper h.keyword.2

end Flag

namespace MessageFlags

variable {flags : MessageFlags} {l : List Flag} {f : SystemFlag} {k : String}

theorem mem_system_ofList : f ∈ (ofList l).system.toList ↔ .system f ∈ l := by
  have hfold : ∀ flags : MessageFlags,
      f ∈ (l.foldl insert flags).system.toList ↔ .system f ∈ l ∨ f ∈ flags.system.toList := by
    induction l with
    | nil => simp
    | cons x l ih =>
      intro flags
      rw [List.foldl_cons, ih, List.mem_cons]
      cases x with
      | system g => simp [insert, SortedSet.mem_toList_insert, or_assoc, or_left_comm]
      | keyword word => simp [insert]
  exact (hfold ∅).trans (or_iff_left List.not_mem_nil)

theorem mem_keywords_ofList :
    k ∈ (ofList l).keywords.toList ↔ ∃ word, .keyword word ∈ l ∧ k = Text.uppercase word := by
  have hfold : ∀ flags : MessageFlags, k ∈ (l.foldl insert flags).keywords.toList ↔
      (∃ word, .keyword word ∈ l ∧ k = Text.uppercase word) ∨ k ∈ flags.keywords.toList := by
    induction l with
    | nil => simp
    | cons x l ih =>
      intro flags
      rw [List.foldl_cons, ih]
      cases x with
      | system g => simp [insert]
      | keyword word =>
        simp only [insert, SortedSet.mem_toList_insert, List.mem_cons, Flag.keyword.injEq]
        simp [or_and_right, exists_or, or_assoc, or_left_comm]
  exact (hfold ∅).trans (or_iff_left List.not_mem_nil)

def Built (flags : MessageFlags) : Prop := ∃ l, (∀ x ∈ l, Flag.Parsed x) ∧ flags = ofList l

theorem built_of_parseList {list : String} (h : parseList list = .ok flags) : flags.Built := by
  rw [parseList] at h
  generalize listNames list = names at h
  cases hnames : names.mapM Flag.parse with
  | error cause =>
    rw [hnames] at h
    cases h
  | ok l =>
    rw [hnames] at h
    cases h
    refine ⟨l, ?_, rfl⟩
    have hread := forall₂_of_mapM_eq_ok hnames
    clear hnames
    induction hread with
    | nil => exact List.forall_mem_nil _
    | cons hname _ ih => exact List.forall_mem_cons.2 ⟨⟨_, hname⟩, ih⟩

def keywordChars (flags : MessageFlags) : List Char :=
  flags.keywords.toList.flatMap String.toList

theorem Built.backslash_not_mem_keywordChars (h : flags.Built) : '\\' ∉ flags.keywordChars := by
  obtain ⟨l, hl, rfl⟩ := h
  intro hmem
  obtain ⟨k, hk, hbackslash⟩ := List.mem_flatMap.1 hmem
  obtain ⟨word, hword, rfl⟩ := mem_keywords_ofList.1 hk
  rw [Text.uppercase, String.toList_ofList] at hbackslash
  exact (hl _ hword).backslash_not_mem_upper hbackslash

theorem toList_encode_of_isEmpty (h : flags.isEmpty = true) : flags.encode.toList = ['\\'] := by
  rw [encode, if_pos h]
  rfl

theorem toList_encode (h : flags.isEmpty = false) :
    flags.encode.toList =
      flags.system.toList.flatMap (fun f => f.token.toList) ++ flags.keywordChars := by
  simp [encode, h, keywordChars, SortedSet.toList, String.toList_join, List.flatMap_def,
    Function.comp_def]

theorem isEmpty_iff : flags.isEmpty = true ↔ flags.system = ∅ ∧ flags.keywords = ∅ := by
  rw [isEmpty, Bool.and_eq_true, SortedMap.isEmpty_iff, SortedMap.isEmpty_iff]

theorem infix_encodeBytes_iff {token : String} :
    Text.encodeString token <:+: flags.encodeBytes ↔ token.toList <:+: flags.encode.toList :=
  Text.encode_infix_encode_iff

theorem not_infix_marker {needle : List Char} (hne : needle ≠ []) (h : '\\' ∉ needle) :
    ¬ needle <:+: ['\\'] := by
  intro hwithin
  obtain ⟨c, hc⟩ := List.exists_mem_of_ne_nil needle hne
  obtain rfl := List.mem_singleton.1 (hwithin.subset hc)
  exact h hc

theorem not_token_infix_marker (f : SystemFlag) : ¬ f.token.toList <:+: ['\\'] := by
  intro h
  have hlength := h.length_le
  revert hlength
  cases f <;> decide

theorem not_token_infix_empty {x : Flag} (h : x.Parsed) :
    ¬ Text.encodeString x.token <:+: (∅ : MessageFlags).encodeBytes := by
  rw [infix_encodeBytes_iff, toList_encode_of_isEmpty rfl]
  cases x with
  | system f => exact not_token_infix_marker f
  | keyword k =>
    rw [Flag.token, Text.uppercase, String.toList_ofList]
    exact not_infix_marker h.upper_ne_nil h.backslash_not_mem_upper

namespace Built

variable (h : flags.Built)
include h

theorem token_infix_iff (f : SystemFlag) :
    Text.encodeString f.token <:+: flags.encodeBytes ↔ f ∈ flags.system.toList := by
  rw [infix_encodeBytes_iff]
  cases hempty : flags.isEmpty with
  | true =>
    rw [toList_encode_of_isEmpty hempty, (isEmpty_iff.1 hempty).1]
    exact iff_of_false (not_token_infix_marker f) List.not_mem_nil
  | false =>
    rw [toList_encode hempty]
    exact SystemFlag.token_infix_iff h.backslash_not_mem_keywordChars

end Built

/-- What follows the last backslash: the rest of the last reserved token, and all keywords. -/
def lastStretch (flags : MessageFlags) : List Char :=
  (flags.system.toList.getLast?.map fun f => f.bareName.toList).getD [] ++ flags.keywordChars

theorem infix_encode_iff {needle : List Char} (hne : needle ≠ []) (hmark : '\\' ∉ needle) :
    needle <:+: flags.encode.toList ↔
      (∃ f ∈ flags.system.toList, needle <:+: f.bareName.toList) ∨
        needle <:+: flags.lastStretch := by
  cases hempty : flags.isEmpty with
  | true =>
    obtain ⟨hsystem, hkeywords⟩ := isEmpty_iff.1 hempty
    rw [toList_encode_of_isEmpty hempty, lastStretch, keywordChars, hsystem, hkeywords]
    refine iff_of_false (not_infix_marker hne hmark) ?_
    simpa using hne
  | false =>
    have hstretch := infix_append_flatMap_cons_iff (fun f : SystemFlag => f.bareName.toList) hmark
      flags.system.toList [] flags.keywordChars
    rw [List.nil_append, List.infix_nil, or_iff_right hne] at hstretch
    simp only [toList_encode hempty, SystemFlag.toList_token]
    exact hstretch

theorem infix_lastStretch_of_mem (hk : k ∈ flags.keywords.toList) :
    k.toList <:+: flags.lastStretch := by
  have hmem : k.toList <:+: flags.keywordChars :=
    List.infix_of_mem_flatten (List.mem_map_of_mem hk)
  exact hmem.trans (List.suffix_append _ _).isInfix

end MessageFlags

end MailIndex
