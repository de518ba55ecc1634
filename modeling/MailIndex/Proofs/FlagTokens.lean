import MailIndex.Proofs.Flag
import MailIndex.Proofs.Text.UppercaseTwice

namespace MailIndex

namespace SystemFlag

variable {name : List Char} {f : SystemFlag}

theorem mem_all (f : SystemFlag) : f ∈ all := by cases f <;> decide

theorem bareName_inj {g : SystemFlag} (h : f.bareName = g.bareName) : f = g :=
  bareName_prefix_inj (h ▸ List.prefix_refl _)

theorem ofName?_eq_some_iff (h : '\\' ∉ name) :
    ofName? name = some f ↔ f.bareName.toList = Text.asciiUpper name := by
  have hbare : ofName? name = all.find? fun f => f.bareName.toList = Text.asciiUpper name := by
    cases name with
    | nil => rfl
    | cons c rest =>
      have hc : c ≠ '\\' := fun hc => h (hc ▸ List.mem_cons_self)
      simp [ofName?, hc]
  rw [hbare]
  constructor
  · intro hfound
    simpa using List.find?_some hfound
  · intro hname
    cases hfound : all.find? fun f => f.bareName.toList = Text.asciiUpper name with
    | none => exact absurd hname (by simpa using List.find?_eq_none.1 hfound f (mem_all f))
    | some g =>
      have hg : g.bareName.toList = Text.asciiUpper name := by simpa using List.find?_some hfound
      exact congrArg some (bareName_inj (String.toList_injective (hg.trans hname.symm)))

end SystemFlag

namespace Flag

variable {text k : String} {x : Flag} {f : SystemFlag}

def SameKind : Flag → Flag → Prop
  | .system f, .system g => f = g
  | .keyword _, .keyword _ => True
  | _, _ => False

def ReadsBack (x : Flag) : Prop :=
  ∃ y, parse x.token = .ok y ∧ y.SameKind x ∧ y.token = x.token

def HasReservedName (x : Flag) : Prop :=
  ∃ k, x = .keyword k ∧ ∃ f : SystemFlag, Text.uppercase k = f.bareName

theorem toList_uppercase (k : String) : (Text.uppercase k).toList = Text.upper k.toList :=
  String.toList_ofList

theorem uppercase_uppercase (k : String) :
    Text.uppercase (Text.uppercase k) = Text.uppercase k := by
  apply String.toList_injective
  simp only [toList_uppercase, Text.upper_upper]

theorem parse_eq_keyword_iff :
    parse text = .ok (.keyword k) ↔
      k.toList = Text.trim text.toList ∧ k.toList ≠ [] ∧ '\\' ∉ k.toList ∧
        SystemFlag.ofName? k.toList = none := by
  constructor
  · intro h
    simp only [parse] at h
    split at h
    · cases h
    · rename_i hname
      split at h
      · cases h
      · rename_i hreserved
        split at h
        · cases h
        · rename_i hbackslash
          cases h
          rw [String.toList_ofList]
          exact ⟨rfl, (not_or.1 hname).1, hbackslash, hreserved⟩
  · rintro ⟨htrim, hne, hbackslash, hname⟩
    have hlone : k.toList ≠ ['\\'] := by
      intro hk
      rw [hk] at hbackslash
      exact hbackslash List.mem_cons_self
    simp only [parse, ← htrim, hne, hlone, or_self, if_false, hname, hbackslash]
    rw [String.ofList_toList]

theorem parse_token_system (f : SystemFlag) : parse f.token = .ok (.system f) := by
  cases f <;> rfl

theorem parse_bareName (f : SystemFlag) : parse f.bareName = .ok (.system f) := by
  cases f <;> rfl

section Keywords

variable (h : Parsed (.keyword k))
include h

theorem parse_uppercase (hname : ∀ f : SystemFlag, Text.uppercase k ≠ f.bareName) :
    parse (Text.uppercase k) = .ok (.keyword (Text.uppercase k)) := by
  have hbackslash := h.backslash_not_mem_upper
  have hne := h.upper_ne_nil
  obtain ⟨text, htext⟩ := h
  have htrimmed : Text.Trimmed k.toList := by
    rw [(parse_eq_keyword_iff.1 htext).1]
    exact Text.trimmed_trim _
  rw [parse_eq_keyword_iff, toList_uppercase]
  refine ⟨htrimmed.upper.trim_eq.symm, hne, hbackslash, ?_⟩
  refine Option.eq_none_iff_forall_ne_some.2 fun f hf => hname f ?_
  rw [SystemFlag.ofName?_eq_some_iff hbackslash, Text.asciiUpper_upper] at hf
  exact String.toList_injective ((toList_uppercase k).trans hf.symm)

theorem token_system_ne_uppercase (f : SystemFlag) : f.token ≠ Text.uppercase k := by
  intro htoken
  apply h.backslash_not_mem_upper
  rw [← toList_uppercase, ← htoken, SystemFlag.toList_token]
  exact List.mem_cons_self

end Keywords

theorem sameKind_of_token_eq {y : Flag} (hx : x.Parsed) (hy : y.Parsed) (h : y.token = x.token) :
    y.SameKind x := by
  cases x with
  | system f =>
    cases y with
    | system g =>
      have htoken := congrArg String.toList h
      rw [token, token, SystemFlag.toList_token, SystemFlag.toList_token] at htoken
      exact SystemFlag.bareName_inj (String.toList_injective (List.tail_eq_of_cons_eq htoken))
    | keyword l => exact absurd h.symm (token_system_ne_uppercase hy f)
  | keyword k =>
    cases y with
    | system g => exact absurd h (token_system_ne_uppercase hx g)
    | keyword l => trivial

theorem not_hasReservedName_system (f : SystemFlag) : ¬ (system f).HasReservedName := by
  rintro ⟨k, hk, -⟩
  cases hk

theorem hasReservedName_keyword_iff :
    (keyword k).HasReservedName ↔ ∃ f : SystemFlag, Text.uppercase k = f.bareName := by
  constructor
  · rintro ⟨_, hk, hf⟩
    cases hk
    exact hf
  · exact fun hf => ⟨k, rfl, hf⟩

theorem exists_parse_token (h : x.Parsed) :
    ∃ y, parse x.token = .ok y ∧ (x.HasReservedName → ¬ y.SameKind x) ∧
      (¬ x.HasReservedName → y.SameKind x ∧ y.token = x.token) := by
  cases x with
  | system f =>
    exact ⟨_, parse_token_system f, fun hname => absurd hname (not_hasReservedName_system f),
      fun _ => ⟨rfl, rfl⟩⟩
  | keyword k =>
    rw [hasReservedName_keyword_iff]
    by_cases hname : ∃ f : SystemFlag, Text.uppercase k = f.bareName
    · obtain ⟨f, hf⟩ := hname
      refine ⟨.system f, ?_, fun _ hkind => hkind, fun hno => absurd ⟨f, hf⟩ hno⟩
      rw [token, hf]
      exact parse_bareName f
    · exact ⟨_, parse_uppercase h (not_exists.1 hname), fun hyes => absurd hyes hname,
        fun _ => ⟨trivial, uppercase_uppercase k⟩⟩

theorem readsBack_iff (h : x.Parsed) : x.ReadsBack ↔ ¬ x.HasReservedName := by
  obtain ⟨y, hy, hreserved, hlike⟩ := exists_parse_token h
  constructor
  · rintro ⟨z, hz, hkind, -⟩ hname
    cases hy.symm.trans hz
    exact hreserved hname hkind
  · exact fun hname => ⟨y, hy, hlike hname⟩

theorem not_hasReservedName_of_ascii (h : parse text = .ok x)
    (hascii : ∀ c ∈ text.toList, c.toNat < 128) : ¬ x.HasReservedName := by
  rintro ⟨k, rfl, f, hf⟩
  obtain ⟨htrim, -, hbackslash, hname⟩ := parse_eq_keyword_iff.1 h
  have hk : ∀ c ∈ k.toList, c.toNat < 128 := by
    rw [htrim]
    exact fun c hc => hascii c ((Text.trim_isInfix _).subset hc)
  have hupper : f.bareName.toList = Text.asciiUpper k.toList := by
    rw [← Text.upper_eq_asciiUpper hk, ← toList_uppercase, hf]
  rw [(SystemFlag.ofName?_eq_some_iff hbackslash).2 hupper] at hname
  cases hname

/-- What a text names is read back from its token, of the same kind and with the same token, unless
it is a keyword whose upper case is a reserved name, as no text in ASCII gives. Two flags of
different kinds have different tokens all the same. -/
theorem token_reads_back_iff (h : parse text = .ok x) :
    (∃ y, parse x.token = .ok y) ∧ (x.ReadsBack ↔ ¬ x.HasReservedName) ∧
      ((∀ c ∈ text.toList, c.toNat < 128) → x.ReadsBack) ∧
      ∀ text' y, parse text' = .ok y → y.token = x.token → y.SameKind x := by
  have hx : x.Parsed := ⟨text, h⟩
  obtain ⟨y, hy, -⟩ := exists_parse_token hx
  refine ⟨⟨y, hy⟩, readsBack_iff hx, fun hascii => ?_, fun text' z hz => ?_⟩
  · exact (readsBack_iff hx).2 (not_hasReservedName_of_ascii h hascii)
  · exact sameKind_of_token_eq hx ⟨text', hz⟩

theorem token_reads_back_strasse :
    parse " straße" = .ok (.keyword "straße") ∧ (keyword "straße").ReadsBack ∧
      parse "\\sEEn\u3000" = .ok (.system .seen) ∧ (system .seen).ReadsBack ∧
      (system .seen).token ≠ (keyword "straße").token := by
  have hstrasse : parse " straße" = .ok (.keyword "straße") := rfl
  have hseen : parse "\\sEEn\u3000" = .ok (.system .seen) := rfl
  have hupper : Text.uppercase "straße" = "STRASSE" := rfl
  have hname : ¬ (keyword "straße").HasReservedName := by
    rw [hasReservedName_keyword_iff, hupper]
    rintro ⟨f, hf⟩
    revert hf
    cases f <;> decide
  refine ⟨hstrasse, (token_reads_back_iff hstrasse).2.1.2 hname, hseen,
    (token_reads_back_iff hseen).2.1.2 (not_hasReservedName_system .seen), fun htoken => ?_⟩
  exact (token_reads_back_iff hstrasse).2.2.2 _ _ hseen htoken

/-- No reserved name is written with the long s, but its upper case is a letter of one. -/
theorem token_of_long_s_reads_as_reserved :
    parse "ſeen" = .ok (.keyword "ſeen") ∧ parse (keyword "ſeen").token = .ok (.system .seen) ∧
      ¬ (keyword "ſeen").ReadsBack := by
  have hreads : parse (keyword "ſeen").token = .ok (.system .seen) := rfl
  refine ⟨rfl, hreads, ?_⟩
  rintro ⟨y, hy, hkind, -⟩
  cases hreads.symm.trans hy
  exact hkind

end Flag

end MailIndex
