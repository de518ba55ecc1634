import MailIndex.Error
import MailIndex.Proofs.List
import MailIndex.Proofs.Text.Trim
import MailIndex.Proofs.Text.Utf8

namespace MailIndex

namespace Bytes

open Text

variable {digits bytes : Bytes} {s : List Char} {c : Char} {b : UInt8} {n index : Nat}

section Octets

def hexOctet (n : Nat) : UInt8 := UInt8.ofNat (hexDigit n).toNat

def hexOctets (b : UInt8) : Bytes := [hexOctet (b.toNat / 16), hexOctet (b.toNat % 16)]

theorem forall_octet {p : UInt8 → Prop} (h : ∀ n < 256, p (UInt8.ofNat n)) (b : UInt8) : p b := by
  have := h b.toNat b.toNat_lt
  rwa [UInt8.ofNat_toNat] at this

theorem hexValue?_eq_some_iff : hexValue? b = some n ↔ n < 16 ∧ lowerByte b = hexOctet n := by
  have hvalue : ∀ k < 256, ∀ n ∈ hexValue? (UInt8.ofNat k),
      n < 16 ∧ lowerByte (UInt8.ofNat k) = hexOctet n := by
    decide +kernel
  have hdigit : ∀ k < 256, ∀ n < 16, lowerByte (UInt8.ofNat k) = hexOctet n →
      hexValue? (UInt8.ofNat k) = some n := by
    decide +kernel
  constructor
  · exact forall_octet (p := fun b => ∀ n ∈ hexValue? b, n < 16 ∧ lowerByte b = hexOctet n)
      hvalue b n
  · rintro ⟨hn, hb⟩
    exact forall_octet (p := fun b => ∀ n < 16, lowerByte b = hexOctet n → hexValue? b = some n)
      hdigit b n hn hb

theorem length_flatMap_hexOctets (bytes : Bytes) :
    (bytes.flatMap hexOctets).length = 2 * bytes.length := by
  simp [List.length_flatMap, hexOctets, Nat.mul_comm]

theorem hexOctets_eq_iff {hi lo : UInt8} :
    hexOctets b = [lowerByte hi, lowerByte lo] ↔
      hexValue? hi = some (b.toNat / 16) ∧ hexValue? lo = some (b.toNat % 16) := by
  have hb := b.toNat_lt
  rw [hexValue?_eq_some_iff, hexValue?_eq_some_iff, hexOctets, List.cons.injEq, List.cons.injEq]
  constructor
  · rintro ⟨hhi, hlo, -⟩
    exact ⟨⟨by omega, hhi.symm⟩, by omega, hlo.symm⟩
  · rintro ⟨⟨-, hhi⟩, -, hlo⟩
    exact ⟨hhi.symm, hlo.symm, rfl⟩

theorem ofHexPairs_ne_ok_nil {hi lo : UInt8} : ofHexPairs index (hi :: lo :: digits) ≠ .ok [] := by
  rw [ofHexPairs]
  split
  · nofun
  · nofun
  · cases ofHexPairs (index + 2) digits <;> nofun

theorem ofHexPairs_eq_ok_cons_iff {hi lo : UInt8} :
    ofHexPairs index (hi :: lo :: digits) = .ok (b :: bytes) ↔
      (hexValue? hi = some (b.toNat / 16) ∧ hexValue? lo = some (b.toNat % 16)) ∧
        ofHexPairs (index + 2) digits = .ok bytes := by
  rw [ofHexPairs]
  split
  · rename_i hhi
    exact iff_of_false nofun fun h => nomatch hhi.symm.trans h.1.1
  · rename_i hhi hlo
    exact iff_of_false nofun fun h => nomatch hlo.symm.trans h.1.2
  · rename_i high low hhi hlo
    have hhigh := (hexValue?_eq_some_iff.1 hhi).1
    have hlow := (hexValue?_eq_some_iff.1 hlo).1
    have hb : UInt8.ofNat (16 * high + low) = b ↔ high = b.toNat / 16 ∧ low = b.toNat % 16 := by
      rw [← UInt8.toNat_inj, UInt8.toNat_ofNat']
      omega
    rw [hhi, hlo, Option.some.injEq, Option.some.injEq, ← hb]
    cases ofHexPairs (index + 2) digits with
    | error cause => exact iff_of_false nofun nofun
    | ok tail => simp [bind, Except.bind, pure, Except.pure]

theorem ofHexPairs_eq_ok_iff :
    ofHexPairs index digits = .ok bytes ↔ bytes.flatMap hexOctets = lowerAscii digits := by
  induction bytes generalizing digits index with
  | nil =>
    match digits with
    | [] => exact iff_of_true rfl rfl
    | [_] => exact iff_of_false nofun nofun
    | _ :: _ :: _ => exact iff_of_false ofHexPairs_ne_ok_nil nofun
  | cons b bytes ih =>
    match digits with
    | [] => exact iff_of_false nofun nofun
    | [_] => exact iff_of_false nofun (by simp [hexOctets, lowerAscii])
    | hi :: lo :: rest =>
      rw [ofHexPairs_eq_ok_cons_iff, ih, ← hexOctets_eq_iff]
      simp [hexOctets, lowerAscii, and_assoc]

theorem ofHex_eq_ok_iff :
    ofHex digits = .ok bytes ↔ bytes.flatMap hexOctets = lowerAscii digits := by
  rw [ofHex]
  split
  · rename_i hodd
    refine iff_of_false nofun fun h => ?_
    have hlength := congrArg List.length h
    rw [length_flatMap_hexOctets, lowerAscii, List.length_map] at hlength
    omega
  · exact ofHexPairs_eq_ok_iff

end Octets

section Characters

theorem utf8EncodeChar_hexDigit : ∀ n < 16, String.utf8EncodeChar (hexDigit n) = [hexOctet n] := by
  decide +kernel

theorem encode_toHexChars (bytes : Bytes) : encode bytes.toHexChars = bytes.flatMap hexOctets := by
  induction bytes with
  | nil => rfl
  | cons b bytes ih =>
    have hb := b.toNat_lt
    rw [toHexChars, List.flatMap_cons, encode_append, ← toHexChars, ih, List.flatMap_cons,
      encode_cons, encode_cons, utf8EncodeChar_hexDigit _ (by omega),
      utf8EncodeChar_hexDigit _ (by omega)]
    rfl

theorem lowerAscii_utf8EncodeChar (c : Char) :
    lowerAscii (String.utf8EncodeChar c) = String.utf8EncodeChar c.toLower := by
  by_cases hc : c.toNat < 128
  · exact ascii_forall
      (p := fun c => lowerAscii (String.utf8EncodeChar c) = String.utf8EncodeChar c.toLower)
      (by decide +kernel) hc
  · rw [toLower_of_not_ascii hc]
    refine (List.map_congr_left fun b hb => ?_).trans (List.map_id _)
    have hb := not_ascii_of_mem_utf8EncodeChar hc b hb
    refine if_neg fun hletter => ?_
    have hle : b.toNat ≤ 90 := hletter.2
    omega

theorem lowerAscii_encode (s : List Char) :
    lowerAscii (encode s) = encode (s.map Char.toLower) := by
  induction s with
  | nil => rfl
  | cons c s ih =>
    rw [encode_cons, List.map_cons, encode_cons, ← ih, ← lowerAscii_utf8EncodeChar]
    exact List.map_append

theorem ofHex_encode_eq_ok_iff :
    ofHex (encode s) = .ok bytes ↔ bytes.toHexChars = s.map Char.toLower := by
  rw [ofHex_eq_ok_iff, lowerAscii_encode, ← encode_toHexChars, encode_inj]

def IsHexDigit (c : Char) : Prop :=
  '0' ≤ c ∧ c ≤ '9' ∨ 'a' ≤ c ∧ c ≤ 'f' ∨ 'A' ≤ c ∧ c ≤ 'F'

instance : DecidablePred IsHexDigit := fun _ => inferInstanceAs (Decidable (_ ∨ _))

theorem IsHexDigit.ascii (h : IsHexDigit c) : c.toNat < 128 := by
  rcases h with ⟨-, h⟩ | ⟨-, h⟩ | ⟨-, h⟩ <;>
  · have hle : c.toNat ≤ _ := h
    exact Nat.lt_of_le_of_lt hle (by decide)

theorem IsHexDigit.isBlank_eq (h : IsHexDigit c) : isBlank c = false :=
  ascii_forall (p := fun c => IsHexDigit c → isBlank c = false) (by decide +kernel) h.ascii h

theorem isHexDigit_iff : IsHexDigit c ↔ ∃ n < 16, hexDigit n = c.toLower := by
  by_cases hc : c.toNat < 128
  · exact ascii_forall (p := fun c => IsHexDigit c ↔ ∃ n < 16, hexDigit n = c.toLower)
      (by decide +kernel) hc
  · have hdigit : ∀ n < 16, (hexDigit n).toNat < 128 := by decide +kernel
    rw [toLower_of_not_ascii hc]
    refine iff_of_false (fun h => hc h.ascii) ?_
    rintro ⟨n, hn, rfl⟩
    exact hc (hdigit n hn)

theorem toLower_hexDigit : ∀ n < 16, (hexDigit n).toLower = hexDigit n := by decide +kernel

theorem length_toHexChars (bytes : Bytes) : bytes.toHexChars.length = 2 * bytes.length := by
  simp [toHexChars, List.length_flatMap, Nat.mul_comm]

theorem exists_of_mem_toHexChars (h : c ∈ bytes.toHexChars) : ∃ n < 16, hexDigit n = c := by
  obtain ⟨b, -, hb⟩ := List.mem_flatMap.1 h
  have := b.toNat_lt
  rcases List.mem_cons.1 hb with rfl | hb
  · exact ⟨b.toNat / 16, by omega, rfl⟩
  · exact ⟨b.toNat % 16, by omega, (List.mem_singleton.1 hb).symm⟩

theorem exists_toHexChars_eq_iff :
    (∃ bytes : Bytes, bytes.length = n ∧ bytes.toHexChars = s.map Char.toLower) ↔
      s.length = 2 * n ∧ ∀ c ∈ s, IsHexDigit c := by
  constructor
  · rintro ⟨bytes, rfl, h⟩
    refine ⟨?_, fun c hc => ?_⟩
    · rw [← length_toHexChars, h, List.length_map]
    · have hlower : c.toLower ∈ bytes.toHexChars := h ▸ List.mem_map_of_mem hc
      exact isHexDigit_iff.2 (exists_of_mem_toHexChars hlower)
  · rintro ⟨hlength, hdigits⟩
    induction n generalizing s with
    | zero =>
      obtain rfl := List.length_eq_zero_iff.1 hlength
      exact ⟨[], rfl, rfl⟩
    | succ n ih =>
      match s with
      | [] => cases hlength
      | [_] =>
        rw [List.length_singleton] at hlength
        omega
      | c :: d :: s =>
        have hrest : s.length = 2 * n := Nat.add_right_cancel (m := 2) hlength
        simp only [List.forall_mem_cons] at hdigits
        obtain ⟨hi, hhi, hc⟩ := isHexDigit_iff.1 hdigits.1
        obtain ⟨lo, hlo, hd⟩ := isHexDigit_iff.1 hdigits.2.1
        obtain ⟨bytes, rfl, hbytes⟩ := ih hrest hdigits.2.2
        have hb : (UInt8.ofNat (16 * hi + lo)).toNat = 16 * hi + lo := by
          rw [UInt8.toNat_ofNat']
          omega
        have hhigh : (16 * hi + lo) / 16 = hi := by omega
        have hlow : (16 * hi + lo) % 16 = lo := by omega
        refine ⟨UInt8.ofNat (16 * hi + lo) :: bytes, rfl, ?_⟩
        rw [toHexChars, List.flatMap_cons, ← toHexChars, hbytes, hb, hhigh, hlow, hc, hd]
        rfl

end Characters

end Bytes

namespace MailboxId

open Bytes Text

variable {m : MailboxId} {text : String}

def digits (text : String) : List Char := (trim text.toList).filter (· != '-')

def IsGrouped (digits s : List Char) : Prop :=
  ∃ groups : List (List Char), groups.map List.length = [8, 4, 4, 4, 12] ∧
    groups.flatten = digits ∧ ['-'].intercalate groups = s

theorem parse_eq_ok_iff :
    parse text = .ok m ↔ m.bytes.toHexChars = (digits text).map Char.toLower := by
  have hread : compact text = encode (digits text) := rfl
  rw [parse, hread, ← ofHex_encode_eq_ok_iff]
  cases ofHex (encode (digits text)) with
  | error cause => exact iff_of_false nofun nofun
  | ok bytes =>
    simp only [ofBytes?, Except.ok.injEq]
    by_cases hlength : bytes.length = 16
    · simp only [dif_pos hlength, Except.ok.injEq]
      constructor
      · rintro rfl
        rfl
      · rintro rfl
        rfl
    · simp only [dif_neg hlength]
      refine iff_of_false nofun ?_
      rintro rfl
      exact hlength m.length_bytes

theorem isGrouped_toChars (m : MailboxId) : IsGrouped m.bytes.toHexChars m.toChars := by
  have hlength : m.bytes.toHexChars.length = 32 := by rw [length_toHexChars, m.length_bytes]
  have hcut : ∀ i j, (m.bytes.toHexChars.drop i).take j ++ m.bytes.toHexChars.drop (i + j) =
      m.bytes.toHexChars.drop i := by
    intro i j
    rw [← List.drop_drop, List.take_append_drop]
  let h := m.bytes.toHexChars
  refine ⟨[h.take 8, (h.drop 8).take 4, (h.drop 12).take 4, (h.drop 16).take 4, h.drop 20],
    ?_, ?_, ?_⟩
  · simp [h, hlength]
  · simp only [List.flatten_cons, List.flatten_nil, List.append_nil, h]
    rw [hcut 16 4, hcut 12 4, hcut 8 4, List.take_append_drop]
  · simp [h, toChars, List.intercalate]

theorem filter_intercalate (groups : List (List Char)) :
    (['-'].intercalate groups).filter (· != '-') = groups.flatten.filter (· != '-') := by
  rw [map_intercalate_eq_flatMap (f := List.filter (· != '-')) rfl (by simp), List.filter_flatten,
    List.flatMap_def]

theorem IsGrouped.digits_eq {s t : List Char} (h : IsGrouped s t) (hs : ∀ c ∈ s, IsHexDigit c) :
    digits (String.ofList t) = s := by
  have hhyphen : ∀ c ∈ s, (c != '-') = true := by
    intro c hc
    rw [bne_iff_ne]
    rintro rfl
    exact absurd (hs _ hc) (by decide)
  obtain ⟨groups, -, rfl, rfl⟩ := h
  have hfilter : (['-'].intercalate groups).filter (· != '-') = groups.flatten := by
    rw [filter_intercalate, List.filter_eq_self.2 hhyphen]
  have hblank : ∀ c ∈ ['-'].intercalate groups, isBlank c = false := by
    intro c hc
    by_cases hc' : c = '-'
    · rw [hc']
      rfl
    · have hmem : c ∈ groups.flatten := by
        rw [← hfilter, List.mem_filter, bne_iff_ne]
        exact ⟨hc, hc'⟩
      exact (hs c hmem).isBlank_eq
  rw [digits, String.toList_ofList, trim_eq_self_of_forall_not_isBlank hblank, hfilter]

theorem map_toLower_toHexChars (bytes : Bytes) :
    bytes.toHexChars.map Char.toLower = bytes.toHexChars := by
  refine (List.map_congr_left fun c hc => ?_).trans (List.map_id _)
  obtain ⟨n, hn, rfl⟩ := exists_of_mem_toHexChars hc
  exact toLower_hexDigit n hn

theorem digits_toString (m : MailboxId) : digits m.toString = m.bytes.toHexChars := by
  refine (isGrouped_toChars m).digits_eq fun c hc => ?_
  obtain ⟨n, hn, rfl⟩ := exists_of_mem_toHexChars hc
  exact isHexDigit_iff.2 ⟨n, hn, (toLower_hexDigit n hn).symm⟩

/-- An identifier is read from its own text, and from any text that holds its digits, in either case
and with hyphens at any place; nothing else is read as one. -/
theorem parse_exact :
    (∀ m : MailboxId, parse m.toString = .ok m) ∧
    (∀ text : String, (∃ m, parse text = .ok m) ↔
      (digits text).length = 32 ∧ ∀ c ∈ digits text, IsHexDigit c) ∧
    (∀ text m, parse text = .ok m →
      IsGrouped ((digits text).map Char.toLower) m.toString.toList) ∧
    ∀ text : String, ¬ ((digits text).length = 32 ∧ ∀ c ∈ digits text, IsHexDigit c) →
      ∃ cause, parse text = .error cause ∧ (Error.mailbox cause).code = .invalidParameter := by
  have hreads : ∀ text : String, (∃ m, parse text = .ok m) ↔
      (digits text).length = 32 ∧ ∀ c ∈ digits text, IsHexDigit c := by
    intro text
    rw [← exists_toHexChars_eq_iff (n := 16)]
    simp only [parse_eq_ok_iff]
    exact ⟨fun ⟨m, hm⟩ => ⟨m.bytes, m.length_bytes, hm⟩, fun ⟨bytes, h, hb⟩ => ⟨⟨bytes, h⟩, hb⟩⟩
  refine ⟨fun m => ?_, hreads, fun text m h => ?_, fun text hno => ?_⟩
  · rw [parse_eq_ok_iff, digits_toString, map_toLower_toHexChars]
  · rw [← parse_eq_ok_iff.1 h, toString, String.toList_ofList]
    exact isGrouped_toChars m
  · cases h : parse text with
    | error cause => exact ⟨cause, rfl, rfl⟩
    | ok m => exact absurd ((hreads text).1 ⟨m, h⟩) hno

theorem parse_exact_of_both_cases :
    parse "\t-AABBCCDD-0011-22334455-66778899eeff-\u3000" =
      .ok (ofNat 0xAABBCCDD00112233445566778899EEFF) ∧
    IsGrouped "aabbccdd00112233445566778899eeff".toList
      (ofNat 0xAABBCCDD00112233445566778899EEFF).toString.toList ∧
    ¬ ((digits "aabbccdd 0011-2233-4455-66778899eeff").length = 32 ∧
      ∀ c ∈ digits "aabbccdd 0011-2233-4455-66778899eeff", IsHexDigit c) ∧
    ∃ cause, parse "aabbccdd 0011-2233-4455-66778899eeff" = .error cause ∧
      (Error.mailbox cause).code = .invalidParameter := by
  have hread : parse "\t-AABBCCDD-0011-22334455-66778899eeff-\u3000" =
      .ok (ofNat 0xAABBCCDD00112233445566778899EEFF) := by decide +kernel
  have hblank : ¬ ((digits "aabbccdd 0011-2233-4455-66778899eeff").length = 32 ∧
      ∀ c ∈ digits "aabbccdd 0011-2233-4455-66778899eeff", IsHexDigit c) := by decide +kernel
  exact ⟨hread, parse_exact.2.2.1 _ _ hread, hblank, parse_exact.2.2.2 _ hblank⟩

end MailboxId

end MailIndex
