import MailIndex.Proofs.Subject
import MailIndex.Proofs.Text.Utf8

/-!
Base subjects read off the octets. The rounds here cut a text where they counted octets, a marker's
or those up to a closing bracket, and fail where a cut falls within a character or past the end.
No round fails, and the rounds end.
-/

namespace MailIndex

namespace Text

def cut? : Nat → List Char → Option (List Char × List Char)
  | 0, s => some ([], s)
  | _ + 1, [] => none
  | n + 1, c :: s =>
    if c.utf8Size ≤ n + 1 then
      (cut? (n + 1 - c.utf8Size) s).map fun parts => (c :: parts.1, parts.2)
    else none
  termination_by structural _ s => s

theorem length_encode_cons (c : Char) (s : List Char) :
    (encode (c :: s)).length = c.utf8Size + (encode s).length := by
  rw [encode_cons, List.length_append, String.length_utf8EncodeChar]

theorem cut?_cons {n : Nat} (hn : 0 < n) (c : Char) (s : List Char) :
    cut? n (c :: s) = if c.utf8Size ≤ n then
      (cut? (n - c.utf8Size) s).map fun parts => (c :: parts.1, parts.2) else none := by
  cases n with
  | zero => exact absurd hn (Nat.lt_irrefl 0)
  | succ n => rfl

theorem cut?_append (a b : List Char) : cut? (encode a).length (a ++ b) = some (a, b) := by
  induction a with
  | nil => cases b <;> rfl
  | cons c a ih =>
    have hpos := c.utf8Size_pos
    rw [length_encode_cons, List.cons_append, cut?_cons (by omega),
      if_pos (Nat.le_add_right _ _), Nat.add_sub_cancel_left, ih]
    rfl

theorem eq_append_of_cut?_eq_some {n : Nat} {a b s : List Char} (h : cut? n s = some (a, b)) :
    s = a ++ b ∧ (encode a).length = n := by
  fun_induction cut? n s generalizing a with
  | case1 s =>
    cases h
    exact ⟨rfl, rfl⟩
  | case2 n => cases h
  | case3 n c s hle ih =>
    simp only [Option.map_eq_some_iff, Prod.exists, Prod.mk.injEq] at h
    obtain ⟨a, b, hcut, rfl, rfl⟩ := h
    obtain ⟨rfl, hlength⟩ := ih hcut
    rw [length_encode_cons]
    exact ⟨rfl, by omega⟩
  | case4 n c s hle => cases h

theorem cut?_eq_some_iff {n : Nat} {a b s : List Char} :
    cut? n s = some (a, b) ↔ s = a ++ b ∧ (encode a).length = n := by
  constructor
  · exact eq_append_of_cut?_eq_some
  · rintro ⟨rfl, rfl⟩
    exact cut?_append a b

theorem length_encode_map_toLower (s : List Char) :
    (encode (s.map Char.toLower)).length = (encode s).length := by
  induction s with
  | nil => rfl
  | cons c s ih =>
    rw [List.map_cons, length_encode_cons, length_encode_cons, utf8Size_toLower, ih]

end Text

namespace Subject

open Text

def dropMarkerAt? (s : List Char) : Option (List Char) :=
  match replyMarkers.find? fun m => startsWith m s with
  | some m => (cut? (encode m).length s).map fun parts => trimStart parts.2
  | none => some s

def dropTagAt? (s : List Char) : Option (List Char) :=
  match s with
  | '[' :: _ =>
    if ']' ∈ s then
      (cut? ((encode (s.takeWhile (· ≠ ']'))).length + 1) s).map fun parts =>
        if trimStart parts.2 = [] then s else trimStart parts.2
    else some s
  | _ => some s

def dropTrailerAt? (s : List Char) : Option (List Char) :=
  if startsWith forwardTrailer.reverse s.reverse then
    if (encode forwardTrailer).length ≤ (encode s).length then
      (cut? ((encode s).length - (encode forwardTrailer).length) s).map fun parts =>
        trimEnd parts.1
    else none
  else some s

def round? (s : List Char) : Option (List Char) :=
  ((dropMarkerAt? s).bind dropTagAt?).bind dropTrailerAt?

/-- The loop over rounds that cut at octets: it ends with the first round that changes nothing, and
no round before that fails. -/
inductive Settles : List Char → List Char → Prop
  | done {s : List Char} : round? s = some s → Settles s s
  | again {s t u : List Char} : round? s = some t → t ≠ s → Settles t u → Settles s u

variable {s : List Char}

theorem dropMarkerAt?_eq (s : List Char) : dropMarkerAt? s = some (dropMarker s) := by
  rw [dropMarkerAt?, dropMarker]
  cases hfind : replyMarkers.find? fun m => startsWith m s with
  | none => rfl
  | some m =>
    have hstart := List.find?_some hfind
    obtain ⟨a, b, rfl, rfl⟩ := startsWith_iff.1 hstart
    simp [length_encode_map_toLower, cut?_append]

theorem dropTagAt?_tagged {tag rest : List Char} (htag : ']' ∉ tag) :
    dropTagAt? ('[' :: (tag ++ ']' :: rest)) = some (dropTag ('[' :: (tag ++ ']' :: rest))) := by
  have htake : ('[' :: (tag ++ ']' :: rest)).takeWhile (· ≠ ']') = '[' :: tag := by
    rw [← List.cons_append, List.takeWhile_append_of_pos (ne_closing_of_not_mem htag)]
    simp
  have hlength : (encode ('[' :: tag ++ [']'])).length = (encode ('[' :: tag)).length + 1 := by
    rw [encode_append, List.length_append]
    rfl
  have hcut : cut? ((encode ('[' :: tag)).length + 1) ('[' :: (tag ++ ']' :: rest)) =
      some ('[' :: tag ++ [']'], rest) :=
    cut?_eq_some_iff.2 ⟨by simp, hlength⟩
  rw [dropTagAt?, if_pos (by simp), htake, hcut, dropTag_tagged htag]
  rfl

theorem dropTagAt?_eq (s : List Char) : dropTagAt? s = some (dropTag s) := by
  cases s with
  | nil => rfl
  | cons c s =>
    by_cases hc : c = '['
    · subst hc
      by_cases hs : ']' ∈ s
      · obtain ⟨tag, rest, rfl, htag⟩ := List.eq_append_cons_of_mem hs
        exact dropTagAt?_tagged htag
      · have hnone : ']' ∉ '[' :: s := by simpa using hs
        rw [dropTagAt?, if_neg hnone, dropTag_of_not]
        rintro tag rest hsplit
        exact absurd (by simp [hsplit]) hnone
    · rw [dropTagAt?, dropTag_of_not]
      · rintro tag rest ⟨⟩
        exact absurd rfl hc
      · rintro tail ⟨⟩
        exact hc rfl

theorem dropTrailerAt?_eq (s : List Char) : dropTrailerAt? s = some (dropTrailer s) := by
  rw [dropTrailerAt?]
  rcases dropTrailer_cases s with ⟨a, b, rfl, hb, hdrop⟩ | ⟨hnone, hdrop⟩
  · have hlength : (encode b).length = (encode forwardTrailer).length := by
      rw [← length_encode_map_toLower, hb]
    have hcut : (encode (a ++ b)).length - (encode forwardTrailer).length = (encode a).length := by
      rw [encode_append, List.length_append, hlength, Nat.add_sub_cancel]
    have hroom : (encode forwardTrailer).length ≤ (encode (a ++ b)).length := by
      rw [encode_append, List.length_append, hlength]
      exact Nat.le_add_left _ _
    rw [if_pos (endsWithTrailer_iff.2 ⟨a, b, rfl, hb⟩), if_pos hroom, hcut, cut?_append, hdrop]
    rfl
  · have hends : ¬ startsWith forwardTrailer.reverse s.reverse = true := by
      rw [endsWithTrailer_iff]
      rintro ⟨a, b, hs, hb⟩
      exact hnone a b hs hb
    rw [if_neg hends, hdrop]

theorem round?_eq (s : List Char) : round? s = some (round s) := by
  simp [round?, dropMarkerAt?_eq, dropTagAt?_eq, dropTrailerAt?_eq, round]

theorem settles_rounds (s : List Char) : Settles s (rounds s) := by
  induction s using rounds.induct with
  | case1 s hshorter ih =>
    rw [rounds_round] at ih
    refine .again (round?_eq s) (fun hsame => ?_) ih
    rw [hsame] at hshorter
    exact Nat.lt_irrefl _ hshorter
  | case2 s hshorter =>
    have hround := round_eq_self_of_not_shorter hshorter
    rw [rounds_eq_self hround]
    exact .done ((round?_eq s).trans (congrArg some hround))

theorem isBase_baseChars (s : List Char) : IsBase (baseChars s) := by
  have htrimmed : Trimmed (baseChars s) :=
    rounds_induction (fun _ => trimmed_round) (trimmed_trim s)
  exact (isBase_iff htrimmed).2 (round_rounds (trim s))

theorem baseChars_isInfix (s : List Char) : baseChars s <:+: s :=
  rounds_induction (motive := (· <:+: s)) (fun t ht => (round_isInfix t).trans ht) (trim_isInfix s)

theorem baseChars_of_isBase (h : IsBase s) : baseChars s = s := by
  rw [baseChars, h.trimmed.trim_eq, rounds_eq_self ((isBase_iff h.trimmed).1 h)]

end Subject

open Text Subject

/-- The loop ends with no cut failed, and what is left of the subject stays as it is from then
on. -/
theorem baseSubject_normal_form (s : String) :
    Settles (trim s.toList) (baseSubject s).toList ∧ (baseSubject s).toList <:+: s.toList ∧
      IsBase (baseSubject s).toList ∧ baseSubject (baseSubject s) = baseSubject s := by
  have hchars : ∀ t, (baseSubject t).toList = baseChars t.toList := fun t => String.toList_ofList
  rw [hchars]
  refine ⟨settles_rounds _, baseChars_isInfix _, isBase_baseChars _, String.toList_inj.1 ?_⟩
  rw [hchars, hchars, baseChars_of_isBase (isBase_baseChars _)]

example : baseSubject "Re: [team] Fwd: Bridges (fwd)" = "Bridges" := by decide +kernel

end MailIndex
