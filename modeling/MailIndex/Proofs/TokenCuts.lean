import MailIndex.Proofs.Postings
import MailIndex.Proofs.Text.UppercaseTwice

namespace MailIndex

namespace Tokens

open Text

variable {s t u : List Char} {c : Char}

def Separates (c : Char) : Prop :=
  isAlphanumeric c = false ∧ c ∉ ['@', '.', '-', '_', '+', '\x27']

theorem isTokenChar_eq_false_iff : isTokenChar c = false ↔ Separates c := by
  simp [isTokenChar, isJoiner, Separates, and_assoc]

theorem ofChars_append_separator (h : Separates c) :
    ofChars (s ++ c :: t) = ofChars s ++ ofChars t := by
  have hc : (! isTokenChar c) = true := congrArg not (isTokenChar_eq_false_iff.2 h)
  rw [ofChars, splitOn_append_separator hc, List.map_append, List.filter_append, ofChars, ofChars]

theorem trimJoiners_isInfix (s : List Char) : trimJoiners s <:+: s :=
  (List.rdropWhile_prefix isJoiner (s.dropWhile isJoiner)).isInfix.trans
    (List.dropWhile_suffix isJoiner).isInfix

theorem trimJoiners_trimJoiners (s : List Char) : trimJoiners (trimJoiners s) = trimJoiners s := by
  have hstart : (trimJoiners s).dropWhile isJoiner = trimJoiners s :=
    dropWhile_eq_self_of_prefix (List.rdropWhile_prefix isJoiner _)
      (List.dropWhile_idempotent isJoiner s)
  rw [trimJoiners, hstart]
  exact List.rdropWhile_idempotent isJoiner _

theorem infix_of_mem_ofChars (h : u ∈ ofChars s) : u <:+: s := by
  obtain ⟨⟨piece, hpiece, rfl⟩, -⟩ := mem_ofChars.1 h
  exact (trimJoiners_isInfix piece).trans (infix_of_mem_splitOn hpiece)

theorem ofChars_of_mem_ofChars (h : u ∈ ofChars s) : ofChars u = [u] := by
  obtain ⟨⟨piece, hpiece, rfl⟩, hne⟩ := mem_ofChars.1 h
  have htoken : ∀ c ∈ trimJoiners piece, (! isTokenChar c) = false := fun c hc =>
    forall_mem_of_mem_splitOn hpiece c ((trimJoiners_isInfix piece).subset hc)
  rw [ofChars, splitOn_eq_singleton htoken, List.map_singleton, trimJoiners_trimJoiners,
    List.filter_singleton, decide_eq_true hne]
  rfl

end Tokens

section Cuts

variable {a b : String} {c : Char}

theorem tokenize_append_separator (h : Tokens.Separates c) :
    tokenize (a ++ c.toString ++ b) = tokenize a ++ tokenize b := by
  have hlist : (a ++ c.toString ++ b).toList = a.toList ++ c :: b.toList := by
    simp [Char.toString]
  rw [tokenize, hlist, Tokens.ofChars_append_separator h, List.map_append, tokenize, tokenize]

theorem tokenize_intercalate (h : Tokens.Separates c) (parts : List String) :
    tokenize (c.toString.intercalate parts) = parts.flatMap tokenize := by
  have hsingle : c.toString.toList = [c] := by simp [Char.toString]
  have htokens := map_intercalate_eq_flatMap (x := c) (f := Tokens.ofChars) rfl
    (fun _ _ => Tokens.ofChars_append_separator h) (parts.map String.toList)
  rw [tokenize, String.toList_intercalate, hsingle, htokens, List.flatMap_map, List.map_flatMap]
  rfl

theorem Postings.addText_append_separator (ps : Postings) (f : Field) (h : Tokens.Separates c) :
    ps.addText f (a ++ c.toString ++ b) = (ps.addText f a).addText f b := by
  rw [addText, tokenize_append_separator h, addTerms, List.map_append, SortedSet.insertAll,
    List.foldl_append]
  rfl

end Cuts

section Terms

variable {s : String} {t : Term}

theorem Term.bytes_ofChars_ne_nil {u : List Char} (h : u ≠ []) : (ofChars u).bytes ≠ [] := by
  intro hnil
  rw [ofChars, Text.encode, List.flatMap_eq_nil_iff] at hnil
  obtain ⟨c, upper, hupper⟩ := List.exists_cons_of_ne_nil (mt Text.upper_eq_nil_iff.1 h)
  rw [hupper] at hnil
  exact String.utf8EncodeChar_ne_nil (hnil c List.mem_cons_self)

theorem bytes_ne_nil_of_mem_tokenize (h : t ∈ tokenize s) : t.bytes ≠ [] := by
  obtain ⟨u, hu, rfl⟩ := List.mem_map.1 h
  exact Term.bytes_ofChars_ne_nil (Tokens.mem_ofChars.1 hu).2

theorem Term.toString_ofChars {u : List Char} (h : ∀ c ∈ u, c.toNat < 128) :
    (ofChars u).toString = String.ofList (Text.asciiUpper u) := by
  have hupper : ∀ c ∈ Text.asciiUpper u, c.toNat < 128 := by
    intro c hc
    obtain ⟨d, hd, rfl⟩ := List.mem_map.1 hc
    exact Text.ascii_forall (p := fun d => d.toUpper.toNat < 128) (by decide +kernel) (h d hd)
  rw [toString, ofChars, Text.upper_eq_asciiUpper h, Text.decodeLossy_encode_of_ascii hupper]

/-- Beyond ASCII this may fail: upper case can bring a character that separates. -/
theorem tokenize_toString (hs : ∀ c ∈ s.toList, c.toNat < 128) (ht : t ∈ tokenize s) :
    tokenize t.toString = [t] := by
  obtain ⟨u, hu, rfl⟩ := List.mem_map.1 ht
  have hascii : ∀ c ∈ u, c.toNat < 128 := fun c hc =>
    hs c ((Tokens.infix_of_mem_ofChars hu).subset hc)
  have htoken : tokenize (String.ofList u) = [.ofChars u] := by
    rw [tokenize, String.toList_ofList, Tokens.ofChars_of_mem_ofChars hu, List.map_singleton]
  rw [Term.toString_ofChars hascii, ← htoken]
  refine tokenize_congr ?_
  rw [String.toList_ofList, String.toList_ofList, ← Text.upper_eq_asciiUpper hascii,
    Text.asciiUpper_upper]

example : ∃ t ∈ tokenize "\u0390", tokenize t.toString ≠ [t] := by decide +kernel

end Terms

theorem tokenize_local :
    (∀ (a b : String) (c : Char), Tokens.Separates c →
      tokenize (a ++ c.toString ++ b) = tokenize a ++ tokenize b) ∧
    (∀ (parts : List String) (c : Char), Tokens.Separates c →
      tokenize (c.toString.intercalate parts) = parts.flatMap tokenize) ∧
    (∀ (ps : Postings) (f : Field) (a b : String) (c : Char), Tokens.Separates c →
      ps.addText f (a ++ c.toString ++ b) = (ps.addText f a).addText f b) ∧
    (∀ s, ∀ t ∈ tokenize s, t.bytes ≠ []) ∧
    ∀ s : String, (∀ c ∈ s.toList, c.toNat < 128) →
      tokenize (" ".intercalate ((tokenize s).map Term.toString)) = tokenize s := by
  refine ⟨fun a b c => tokenize_append_separator, fun parts c h => tokenize_intercalate h parts,
    fun ps f a b c => ps.addText_append_separator f, fun s t => bytes_ne_nil_of_mem_tokenize,
    fun s hs => ?_⟩
  have hspace : Tokens.Separates ' ' := ⟨by decide +kernel, by decide⟩
  have hterms : ∀ t ∈ tokenize s, tokenize t.toString = [t] := fun t => tokenize_toString hs
  calc tokenize (" ".intercalate ((tokenize s).map Term.toString))
    _ = ((tokenize s).map Term.toString).flatMap tokenize := tokenize_intercalate hspace _
    _ = (tokenize s).flatMap fun t => [t] := by
      rw [List.flatMap_map]
      exact List.flatMap_congr hterms
    _ = tokenize s := List.flatMap_singleton' _

theorem tokenize_local_of_address :
    let s := "-Mail john.doe@example.com, now! ...(re-send) "
    Tokens.Separates ',' ∧
      tokenize ("Mail-" ++ Char.toString ',' ++ "++x") = tokenize "Mail-" ++ tokenize "++x" ∧
      tokenize ((Char.toString ',').intercalate ["Mail-", ".", "++x"]) =
        ["Mail-", ".", "++x"].flatMap tokenize ∧
      (∅ : Postings).addText .body ("Mail-" ++ Char.toString ',' ++ "++x") =
        ((∅ : Postings).addText .body "Mail-").addText .body "++x" ∧
      (∀ t ∈ tokenize s, t.bytes ≠ []) ∧ (∀ c ∈ s.toList, c.toNat < 128) ∧
      tokenize (" ".intercalate ((tokenize s).map Term.toString)) = tokenize s := by
  intro s
  have hcomma : Tokens.Separates ',' := ⟨by decide +kernel, by decide⟩
  have hall : (s.toList.all fun c => c.toNat < 128) = true := by decide +kernel
  have hascii : ∀ c ∈ s.toList, c.toNat < 128 := fun c hc =>
    of_decide_eq_true (List.all_eq_true.1 hall c hc)
  obtain ⟨hcut, hcuts, hadd, hne, hstable⟩ := tokenize_local
  exact ⟨hcomma, hcut _ _ _ hcomma, hcuts _ _ hcomma, hadd _ _ _ _ _ hcomma, hne s, hascii,
    hstable s hascii⟩

end MailIndex
