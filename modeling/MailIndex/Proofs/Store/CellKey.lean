import MailIndex.Proofs.Bytes
import MailIndex.Proofs.Order
import MailIndex.Store.CellKey

namespace MailIndex.CellKey

def stuffing (b : UInt8) : Bytes := if b = 0 then [0xFF] else []

@[simp] theorem stuffing_zero : stuffing 0 = [0xFF] := rfl

theorem stuffing_of_ne_zero {b : UInt8} (hb : b ≠ 0) : stuffing b = [] := if_neg hb

@[simp] theorem escape_nil : escape [] = [] := rfl

theorem escape_cons (b : UInt8) (bytes : Bytes) :
    escape (b :: bytes) = b :: (stuffing b ++ escape bytes) := by
  by_cases hb : b = 0 <;> simp [escape, stuffing, hb]

theorem escape_append (part part' : Bytes) : escape (part ++ part') = escape part ++ escape part' :=
  List.flatMap_append

def framed (part rest : Bytes) : Bytes := escape part ++ terminator ++ rest

@[simp] theorem framed_nil (rest : Bytes) : framed [] rest = 0 :: 1 :: rest := rfl

theorem framed_cons (b : UInt8) (part rest : Bytes) :
    framed (b :: part) rest = b :: (stuffing b ++ framed part rest) := by
  simp only [framed, escape_cons, List.cons_append, List.append_assoc]

theorem encode_eq (a : CellAddress) :
    encode a = framed a.family (framed a.row a.qualifier) := by
  simp only [encode, framed, List.append_assoc]

theorem scanStart_eq (family start : Bytes) :
    scanStart family start = framed family (escape start) := rfl

theorem takePart_cons_stuffing_append (b : UInt8) (bytes : Bytes) :
    takePart (b :: (stuffing b ++ bytes)) =
      (takePart bytes).map fun (part, after) => (b :: part, after) := by
  by_cases hb : b = 0
  · subst hb
    rw [stuffing_zero, takePart.eq_def]
    simp
  · rw [stuffing_of_ne_zero hb, takePart.eq_def]
    simp [hb]

theorem takePart_escape_append (part tail : Bytes) :
    takePart (escape part ++ tail) =
      (takePart tail).map fun (inner, after) => (part ++ inner, after) := by
  induction part with
  | nil => simp
  | cons b part ih =>
    rw [escape_cons, List.cons_append, List.append_assoc, takePart_cons_stuffing_append, ih,
      Option.map_map]
    rfl

theorem takePart_framed (part rest : Bytes) : takePart (framed part rest) = some (part, rest) := by
  have hend : takePart (terminator ++ rest) = some ([], rest) := rfl
  rw [framed, List.append_assoc, takePart_escape_append, hend]
  simp

theorem framed_of_takePart_eq_some {bytes part rest : Bytes}
    (h : takePart bytes = some (part, rest)) : framed part rest = bytes := by
  fun_induction takePart bytes generalizing part rest with
  | case1 => cases h
  | case2 => cases h
  | case3 bytes ih =>
    obtain ⟨⟨inner, after⟩, hinner, heq⟩ := Option.map_eq_some_iff.1 h
    cases heq
    rw [framed_cons, ih hinner, stuffing_zero]
    rfl
  | case4 bytes =>
    cases h
    rfl
  | case5 => cases h
  | case6 b bytes hb ih =>
    obtain ⟨⟨inner, after⟩, hinner, heq⟩ := Option.map_eq_some_iff.1 h
    cases heq
    rw [framed_cons, ih hinner, stuffing_of_ne_zero hb]
    rfl

theorem takePart_eq_some_iff {bytes part rest : Bytes} :
    takePart bytes = some (part, rest) ↔ framed part rest = bytes := by
  constructor
  · exact framed_of_takePart_eq_some
  · rintro rfl
    exact takePart_framed part rest

/-- Whether no part can be read: there is no terminator, or a zero in front of it is followed by
neither mark. -/
inductive Broken : Bytes → Prop
  | unended (part : Bytes) : Broken (escape part)
  | halved (part : Bytes) : Broken (escape part ++ [0])
  | mismarked (part : Bytes) {mark : UInt8} (rest : Bytes) :
    mark ≠ 0xFF → mark ≠ 1 → Broken (escape part ++ 0 :: mark :: rest)

theorem Broken.after_escape {bytes : Bytes} (part : Bytes) (h : Broken bytes) :
    Broken (escape part ++ bytes) := by
  cases h with
  | unended part' =>
    rw [← escape_append]
    exact .unended _
  | halved part' =>
    rw [← List.append_assoc, ← escape_append]
    exact .halved _
  | mismarked part' rest hzero hone =>
    rw [← List.append_assoc, ← escape_append]
    exact .mismarked _ rest hzero hone

theorem broken_of_takePart_eq_none {bytes : Bytes} (h : takePart bytes = none) : Broken bytes := by
  fun_induction takePart bytes with
  | case1 => exact .unended []
  | case2 => exact .halved []
  | case3 bytes ih => exact (ih (Option.map_eq_none_iff.1 h)).after_escape [0]
  | case4 => cases h
  | case5 mark bytes hzero hone => exact .mismarked [] bytes hzero hone
  | case6 b bytes hb ih =>
    have hbroken := (ih (Option.map_eq_none_iff.1 h)).after_escape [b]
    rwa [escape_cons, escape_nil, stuffing_of_ne_zero hb] at hbroken

theorem takePart_eq_none_iff {bytes : Bytes} : takePart bytes = none ↔ Broken bytes := by
  constructor
  · exact broken_of_takePart_eq_none
  · intro h
    cases h with
    | unended part =>
      rw [← List.append_nil (escape part), takePart_escape_append]
      rfl
    | halved part =>
      rw [takePart_escape_append]
      rfl
    | mismarked part rest hzero hone =>
      rw [takePart_escape_append, takePart.eq_def]
      simp [hzero, hone]

@[simp] theorem decode_encode (a : CellAddress) : decode (encode a) = some a := by
  rw [decode, encode_eq, takePart_framed]
  simp [takePart_framed]

theorem encode_inj {a b : CellAddress} (h : encode a = encode b) : a = b := by
  have := congrArg decode h
  simpa using this

theorem encode_eq_encode_iff {a b : CellAddress} : encode a = encode b ↔ a = b :=
  ⟨encode_inj, congrArg encode⟩

theorem decode_eq_some_iff {key : Bytes} {a : CellAddress} :
    decode key = some a ↔ encode a = key := by
  constructor
  · intro h
    obtain ⟨⟨family, rest⟩, hfamily, h⟩ := Option.bind_eq_some_iff.1 h
    obtain ⟨⟨row, qualifier⟩, hrow, h⟩ := Option.bind_eq_some_iff.1 h
    cases h
    rw [encode_eq, takePart_eq_some_iff.1 hrow, takePart_eq_some_iff.1 hfamily]
  · rintro rfl
    exact decode_encode a

inductive Malformed : Bytes → Prop
  | family {key : Bytes} : Broken key → Malformed key
  | row (family : Bytes) {rest : Bytes} : Broken rest → Malformed (framed family rest)

theorem decode_eq_none_iff {key : Bytes} : decode key = none ↔ Malformed key := by
  rw [decode]
  constructor
  · intro h
    cases hfamily : takePart key with
    | none => exact .family (takePart_eq_none_iff.1 hfamily)
    | some parts =>
      obtain ⟨family, rest⟩ := parts
      rw [← takePart_eq_some_iff.1 hfamily]
      cases hrow : takePart rest with
      | none => exact .row family (takePart_eq_none_iff.1 hrow)
      | some parts => simp [hfamily, hrow] at h
  · intro h
    cases h with
    | family hbroken => simp [takePart_eq_none_iff.2 hbroken]
    | row family hbroken => simp [takePart_framed, takePart_eq_none_iff.2 hbroken]

/-- Keys are read back, and nothing is read from any other octets. -/
theorem decode_inverts_encode :
    Function.Injective encode ∧
      ∀ key, (∀ a, decode key = some a ↔ encode a = key) ∧ (decode key = none ↔ Malformed key) :=
  ⟨fun _ _ => encode_inj, fun _ => ⟨fun _ => decode_eq_some_iff, decode_eq_none_iff⟩⟩

example :
    decode [0x46, 0, 1, 0, 0xFF, 0, 1, 0, 2] = some ⟨[0x46], [0], [0, 2]⟩ ∧
      decode [0x46, 0, 1, 0, 2, 0, 1] = none ∧ decode [0x46, 0] = none := by
  decide

theorem not_framed_nil_prefix_cons_stuffing_append (b : UInt8) (rest bytes : Bytes) :
    ¬ framed [] rest <+: b :: (stuffing b ++ bytes) := by
  rw [framed_nil, List.cons_prefix_cons]
  rintro ⟨rfl, h⟩
  simp at h

theorem not_cons_stuffing_append_prefix_framed_nil (b : UInt8) (bytes rest : Bytes) :
    ¬ b :: (stuffing b ++ bytes) <+: framed [] rest := by
  rw [framed_nil, List.cons_prefix_cons]
  rintro ⟨rfl, h⟩
  simp at h

theorem cons_stuffing_append_prefix_iff (a b : UInt8) (s t : Bytes) :
    a :: (stuffing a ++ s) <+: b :: (stuffing b ++ t) ↔ a = b ∧ s <+: t := by
  rw [List.cons_prefix_cons, and_congr_right_iff]
  rintro rfl
  exact List.prefix_append_right_inj (stuffing a)

theorem framed_prefix_framed_iff (part part' rest rest' : Bytes) :
    framed part rest <+: framed part' rest' ↔ part = part' ∧ rest <+: rest' := by
  induction part generalizing part' with
  | nil =>
    cases part' with
    | nil => simp
    | cons b part' =>
      rw [framed_cons]
      exact iff_of_false (not_framed_nil_prefix_cons_stuffing_append b rest _) (by simp)
  | cons a part ih =>
    rw [framed_cons]
    cases part' with
    | nil => exact iff_of_false (not_cons_stuffing_append_prefix_framed_nil a _ rest') (by simp)
    | cons b part' =>
      rw [framed_cons, cons_stuffing_append_prefix_iff, ih, List.cons.injEq, and_assoc]

theorem escape_prefix_framed_iff (start row rest : Bytes) :
    escape start <+: framed row rest ↔ start <+: row := by
  induction start generalizing row with
  | nil => simp
  | cons a start ih =>
    rw [escape_cons]
    cases row with
    | nil => exact iff_of_false (not_cons_stuffing_append_prefix_framed_nil a _ rest) (by simp)
    | cons b row =>
      rw [framed_cons, cons_stuffing_append_prefix_iff, ih, List.cons_prefix_cons]

theorem scanStart_prefix_encode_iff (family start : Bytes) (a : CellAddress) :
    scanStart family start <+: encode a ↔ family = a.family ∧ start <+: a.row := by
  rw [scanStart_eq, encode_eq, framed_prefix_framed_iff, escape_prefix_framed_iff]

theorem framed_nil_lt_cons_stuffing_append (b : UInt8) (rest bytes : Bytes) :
    framed [] rest < b :: (stuffing b ++ bytes) := by
  by_cases hb : b = 0
  · subst hb
    exact List.cons_lt_cons_iff.2 (.inr ⟨rfl, List.cons_lt_cons_iff.2 (.inl (by decide))⟩)
  · exact List.cons_lt_cons_iff.2 (.inl (UInt8.pos_iff_ne_zero.2 hb))

theorem cons_stuffing_append_lt_iff (a b : UInt8) (s t : Bytes) :
    a :: (stuffing a ++ s) < b :: (stuffing b ++ t) ↔ a < b ∨ a = b ∧ s < t := by
  rw [List.cons_lt_cons_iff]
  refine or_congr_right (and_congr_right_iff.2 ?_)
  rintro rfl
  exact Bytes.append_lt_append_iff (stuffing a)

theorem framed_lt_framed_iff (part part' rest rest' : Bytes) :
    framed part rest < framed part' rest' ↔ part < part' ∨ part = part' ∧ rest < rest' := by
  induction part generalizing part' with
  | nil =>
    cases part' with
    | nil => simp
    | cons b part' =>
      rw [framed_cons]
      exact iff_of_true (framed_nil_lt_cons_stuffing_append b rest _)
        (.inl (List.nil_lt_cons b part'))
  | cons a part ih =>
    rw [framed_cons]
    cases part' with
    | nil =>
      exact iff_of_false (StrictTotal.asymm (framed_nil_lt_cons_stuffing_append a rest' _))
        (by simp)
    | cons b part' =>
      rw [framed_cons, cons_stuffing_append_lt_iff, ih, List.cons_lt_cons_iff, List.cons.injEq,
        and_or_left, or_assoc, and_assoc]

theorem encode_lt_encode_iff {a b : CellAddress} :
    encode a < encode b ↔ a.family < b.family ∨ a.family = b.family ∧
      (a.row < b.row ∨ a.row = b.row ∧ a.qualifier < b.qualifier) := by
  rw [encode_eq, encode_eq, framed_lt_framed_iff, framed_lt_framed_iff]

/-- Keys come by family, then by row, then by qualifier, and a scan of those with one beginning
comes by the rows with one beginning. -/
theorem encode_keeps_order_and_starts :
    (∀ a b, encode a < encode b ↔ a.family < b.family ∨ a.family = b.family ∧
        (a.row < b.row ∨ a.row = b.row ∧ a.qualifier < b.qualifier)) ∧
      ∀ family start a,
        scanStart family start <+: encode a ↔ family = a.family ∧ start <+: a.row :=
  ⟨fun _ _ => encode_lt_encode_iff, scanStart_prefix_encode_iff⟩

example :
    encode ⟨[0x46], [0x61], [0xFF]⟩ < encode ⟨[0x46], [0x61, 0], []⟩ ∧
      encode ⟨[0x46], [0x61, 0], [0xFF]⟩ < encode ⟨[0x46], [0x61, 1], []⟩ := by
  decide

end MailIndex.CellKey
