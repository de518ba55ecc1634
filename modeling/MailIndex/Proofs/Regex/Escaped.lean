import MailIndex.Proofs.Regex.Basic
import MailIndex.RowFilter

namespace MailIndex

namespace Regex

theorem hexDigit?_toUpper_hexDigit :
    ∀ n < 16, hexDigit? (Bytes.hexDigit n).toUpper = some n := by
  decide

theorem toUpper_hexDigit_ne_brace : ∀ n < 16, (Bytes.hexDigit n).toUpper ≠ '\x7b' := by
  decide

theorem charOfCode?_of_lt {n : Nat} (h : n < 256) : charOfCode? n = some (Char.ofNat n) := by
  have : n.isValidChar := .inl (by omega)
  rw [charOfCode?, Char.ofNat, dif_pos this, dif_pos this]

theorem readHex_digits {hi lo : Nat} (hhi : hi < 16) (hlo : lo < 16) (rest : List Char) :
    readHex false 2 ((Bytes.hexDigit hi).toUpper :: (Bytes.hexDigit lo).toUpper :: rest) =
      some (.char (Char.ofNat (16 * hi + lo)) true, rest) := by
  have hcode := charOfCode?_of_lt (show 16 * hi + lo < 256 by omega)
  rw [readHex, skip]
  split
  · rename_i heq
    exact absurd (List.cons.inj heq).1 (toUpper_hexDigit_ne_brace hi hhi)
  · simp [readFixedHex, hexDigit?_toUpper_hexDigit, hhi, hlo, skip, hcode]

def octetPiece (b : UInt8) : Piece := .ofLeaf (.literal [b])

variable {r : Reading}

theorem readPiece_escaped (h : r.flags = Reading.start.flags) (steps : Nat) (b : UInt8)
    (rest : List Char) :
    readPiece steps r '\\' ('x' :: (Bytes.hexDigit (b.toNat / 16)).toUpper ::
      (Bytes.hexDigit (b.toNat % 16)).toUpper :: rest) = some (r.push (octetPiece b), rest) := by
  have hb := b.toNat_lt
  have hhex := readHex_digits (show b.toNat / 16 < 16 by omega) (Nat.mod_lt b.toNat (by decide))
    rest
  have hcode : 16 * (b.toNat / 16) + b.toNat % 16 = b.toNat := by omega
  have hspaced : r.flags.spaced = false := by rw [h]; rfl
  have hleaf : charLeaf r.flags (Char.ofNat b.toNat) true = .literal [b] := by
    have hchar : (Char.ofNat b.toNat).toNat = b.toNat := by
      rw [Char.ofNat, dif_pos (Or.inl (by omega))]
      rfl
    rw [h, charLeaf, hchar]
    simp [foldSet, Reading.start]
  rw [hcode] at hhex
  change ((readHex r.flags.spaced 2 _).bind fun read =>
    (read.1.leaf? r.flags).bind fun l => some (r.push (.ofLeaf l), read.2)) = _
  rw [hspaced, hhex]
  change some (r.push (.ofLeaf (charLeaf r.flags _ true)), rest) = _
  rw [hleaf, octetPiece]

/-- What stands behind the anchor in the patterns of queries: escaped octets, and any text. -/
inductive PatternPart
  | octet (b : UInt8)
  | anyText

def anyOctet : Text.Bands := [0, 256]

def gap : Piece :=
  ⟨.times (.octet anyOctet) 0 none, .times (.octets anyOctet) 0 none false, 1, true⟩

namespace PatternPart

def chars : PatternPart → List Char
  | octet b => Filter.escapedChars [b]
  | anyText => ".*?".toList

def piece : PatternPart → Piece
  | octet b => octetPiece b
  | anyText => gap

def pattern (parts : List PatternPart) : String :=
  String.ofList ('^' :: parts.flatMap chars)

theorem three_le_length_chars (p : PatternPart) : 3 ≤ p.chars.length := by
  cases p with
  | octet b => exact Nat.le_succ 3
  | anyText => exact Nat.le_refl 3

theorem three_mul_length_le (parts : List PatternPart) :
    3 * parts.length ≤ (parts.flatMap chars).length := by
  induction parts with
  | nil => exact Nat.le_refl 0
  | cons p parts ih =>
    have hp := p.three_le_length_chars
    rw [List.flatMap_cons, List.length_append, List.length_cons]
    omega

theorem depth_piece_le (p : PatternPart) : p.piece.depth ≤ 1 := by
  cases p with
  | octet b => exact Nat.zero_le 1
  | anyText => exact Nat.le_refl 1

end PatternPart

def readPieces (steps : Nat) (r : Reading) (s : List Char) : Option Reading :=
  match skip r.flags.spaced s, steps with
  | [], _ => some r
  | _ :: _, 0 => none
  | c :: rest, steps + 1 => do
    let (r, after) ← readPiece steps r c rest
    readPieces steps r after

theorem readAll_eq_bind (steps : Nat) (r : Reading) (s : List Char) :
    readAll steps r s = (readPieces steps r s).bind finish := by
  induction steps generalizing r s with
  | zero =>
    rw [readAll.eq_def, readPieces.eq_def]
    cases skip r.flags.spaced s with
    | nil => rfl
    | cons c rest => rfl
  | succ steps ih =>
    rw [readAll.eq_def, readPieces.eq_def]
    cases skip r.flags.spaced s with
    | nil => rfl
    | cons c rest =>
      change (readPiece steps r c rest).bind _ = ((readPiece steps r c rest).bind _).bind finish
      rw [Option.bind_assoc]
      congr 1
      funext read
      exact ih read.1 read.2

theorem readPieces_nil (h : r.flags = Reading.start.flags) (steps : Nat) :
    readPieces steps r [] = some r := by
  have hskip : skip r.flags.spaced [] = [] := by rw [h]; rfl
  rw [readPieces.eq_def, hskip]

theorem readPieces_cons (h : r.flags = Reading.start.flags) (steps : Nat) (c : Char)
    (rest : List Char) :
    readPieces (steps + 1) r (c :: rest) =
      (readPiece steps r c rest).bind fun (r, after) => readPieces steps r after := by
  have hskip : skip r.flags.spaced (c :: rest) = c :: rest := by rw [h]; rfl
  rw [readPieces.eq_def, hskip]
  rfl

theorem everything_diff_none : (Text.Bands.octets.diff Text.Bands.none) = anyOctet := by
  simp [Text.Bands.diff, Text.Bands.octets, Text.Bands.none, anyOctet, Text.Bands.combine,
    Text.Bands.combine.change]

theorem readPieces_anyText (h : r.flags = Reading.start.flags) (steps : Nat) (rest : List Char) :
    readPieces (steps + 2) r ('.' :: '*' :: '?' :: rest) = readPieces steps (r.push gap) rest := by
  have hdot : dotLeaf r.flags = .octets anyOctet := by
    rw [h, ← everything_diff_none]
    rfl
  have hpush : (r.push (.ofLeaf (.octets anyOctet))).flags = Reading.start.flags := h
  have hstar : readPiece steps (r.push (.ofLeaf (.octets anyOctet))) '*' ('?' :: rest) =
      some (r.push gap, rest) := by
    change some (r.push (Piece.repeated (.ofLeaf (.octets anyOctet)) 0 none
      (true == r.flags.frugal)), rest) = _
    rw [h]
    rfl
  rw [readPieces_cons h]
  change readPieces (steps + 1) (r.push (.ofLeaf (dotLeaf r.flags))) ('*' :: '?' :: rest) = _
  rw [hdot, readPieces_cons hpush, hstar]
  rfl

theorem readPieces_parts (h : r.flags = Reading.start.flags) {steps : Nat}
    (parts : List PatternPart) (hsteps : 2 * parts.length ≤ steps) :
    readPieces steps r (parts.flatMap PatternPart.chars) =
      some { r with pieces := (parts.map PatternPart.piece).reverse ++ r.pieces } := by
  induction parts generalizing r steps with
  | nil => exact readPieces_nil h steps
  | cons p parts ih =>
    rw [List.length_cons] at hsteps
    -- no part changes the flags, so the next one is read in the same way
    have hpush : ∀ q, (r.push q).flags = Reading.start.flags := fun _ => h
    have hpieces : some { r.push p.piece with
        pieces := (parts.map PatternPart.piece).reverse ++ (r.push p.piece).pieces } =
        some { r with pieces := ((p :: parts).map PatternPart.piece).reverse ++ r.pieces } := by
      simp [Reading.push]
    rw [← hpieces, List.flatMap_cons]
    cases p with
    | octet b =>
      obtain ⟨steps, rfl⟩ : ∃ n, steps = n + 1 := ⟨steps - 1, by omega⟩
      change readPieces (steps + 1) r ('\\' :: 'x' :: _ :: _ :: parts.flatMap _) = _
      rw [readPieces_cons h, readPiece_escaped h]
      exact ih (hpush _) (by omega)
    | anyText =>
      obtain ⟨steps, rfl⟩ : ∃ n, steps = n + 2 := ⟨steps - 2, by omega⟩
      change readPieces (steps + 2) r ('.' :: '*' :: '?' :: parts.flatMap _) = _
      rw [readPieces_anyText h]
      exact ih (hpush _) (by omega)

def anchor : Piece := .ofLeaf (.place .textStart false)

theorem readPieces_pattern (parts : List PatternPart) :
    readPieces (PatternPart.pattern parts).toList.length .start
        (PatternPart.pattern parts).toList =
      some { Reading.start with
        pieces := (parts.map PatternPart.piece).reverse ++ [anchor] } := by
  have hlength := PatternPart.three_mul_length_le parts
  rw [PatternPart.pattern, String.toList_ofList, List.length_cons, readPieces_cons rfl]
  change readPieces _ (Reading.start.push anchor) _ = _
  have hanchor : (Reading.start.push anchor).flags = Reading.start.flags := rfl
  rw [readPieces_parts hanchor parts (by omega)]
  rfl

theorem ofPattern?_pattern (parts : List PatternPart) :
    ofPattern? (PatternPart.pattern parts) =
      finish { Reading.start with
        pieces := (parts.map PatternPart.piece).reverse ++ [anchor] } := by
  rw [ofPattern?, readAll_eq_bind, readPieces_pattern]
  rfl

def ofPatternOfAnyRoom? (pattern : String) : Option Regex :=
  (readPieces pattern.toList.length .start pattern.toList).bind fun r =>
    if r.opened.isEmpty && r.current.depth ≤ depthLimit then some r.current.regex else none

theorem ofPatternOfAnyRoom?_of_ofPattern? {pattern : String} {x : Regex}
    (h : ofPattern? pattern = some x) : ofPatternOfAnyRoom? pattern = some x := by
  rw [ofPattern?, readAll_eq_bind] at h
  obtain ⟨r, hr, hfinish⟩ := Option.bind_eq_some_iff.1 h
  rw [ofPatternOfAnyRoom?, hr, Option.bind_some]
  rw [finish] at hfinish
  split at hfinish
  · rename_i hopened
    obtain ⟨hlimits, hx⟩ := Option.ite_none_right_eq_some.1 hfinish
    rw [hopened]
    exact Option.ite_none_right_eq_some.2 ⟨(Bool.and_eq_true _ _ ▸ hlimits).1, hx⟩
  · cases hfinish

theorem depth_ofReversed_le {ps : List Piece} {n : Nat} (h : ∀ p ∈ ps, p.depth ≤ n) :
    (Piece.ofReversed ps).depth ≤ n + 1 := by
  match ps with
  | [] => exact Nat.zero_le _
  | [p] => exact Nat.le_succ_of_le (h p List.mem_cons_self)
  | p :: q :: rest =>
    refine Nat.succ_le_succ (List.foldlRecOn (motive := fun d => d ≤ n) _ max (Nat.zero_le n) ?_)
    intro depth hdepth d hd
    obtain ⟨x, hx, rfl⟩ := List.mem_map.1 hd
    exact Nat.max_le.2 ⟨hdepth, h x (List.mem_reverse.1 hx)⟩

theorem exists_ofPatternOfAnyRoom?_pattern (parts : List PatternPart) :
    ∃ x, ofPatternOfAnyRoom? (PatternPart.pattern parts) = some x := by
  have hdepth : (Piece.ofReversed ((parts.map PatternPart.piece).reverse ++ [anchor])).depth ≤
      depthLimit := by
    refine Nat.le_trans (depth_ofReversed_le (n := 1) fun p hp => ?_) (by decide)
    rcases List.mem_append.1 hp with hp | hp
    · obtain ⟨part, -, rfl⟩ := List.mem_map.1 (List.mem_reverse.1 hp)
      exact part.depth_piece_le
    · rw [List.mem_singleton.1 hp]
      exact Nat.zero_le 1
  rw [ofPatternOfAnyRoom?, readPieces_pattern, Option.bind_some]
  exact ⟨_, if_pos (decide_eq_true hdepth)⟩

section Contains

variable (start needle : Bytes)

def containsPattern : List PatternPart :=
  start.map .octet ++ .anyText :: needle.map .octet

theorem flatMap_octet (bytes : Bytes) :
    (bytes.map PatternPart.octet).flatMap PatternPart.chars = Filter.escapedChars bytes := by
  induction bytes with
  | nil => rfl
  | cons b bytes ih => exact congrArg (Filter.escapedChars [b] ++ ·) ih

theorem pattern_containsPattern :
    PatternPart.pattern (containsPattern start needle) = String.ofList
      ('^' :: Filter.escapedChars start ++ ".*?".toList ++ Filter.escapedChars needle) := by
  rw [PatternPart.pattern, containsPattern, List.flatMap_append, List.flatMap_cons, flatMap_octet,
    flatMap_octet, ← List.append_assoc]
  rfl

def containsPieces : List Piece :=
  (needle.map octetPiece).reverse ++ gap :: ((start.map octetPiece).reverse ++ [anchor])

theorem ofPattern?_contains :
    ofPattern? (String.ofList
      ('^' :: Filter.escapedChars start ++ ".*?".toList ++ Filter.escapedChars needle)) =
      finish { Reading.start with pieces := containsPieces start needle } := by
  have hpieces : ((containsPattern start needle).map PatternPart.piece).reverse ++ [anchor] =
      containsPieces start needle := by
    simp [containsPattern, containsPieces, Function.comp_def, PatternPart.piece]
  rw [← pattern_containsPattern, ofPattern?_pattern, hpieces]

def containsRegex : Regex :=
  sequence ((.place .textStart false) :: (start.map (fun b => literal [b]) ++
    .times (.octet anyOctet) 0 none :: needle.map fun b => literal [b]))

theorem inBands_anyOctet (b : UInt8) : Text.inBands anyOctet b.toNat = true := by
  have hb : ¬ 256 ≤ b.toNat := by
    have := b.toNat_lt
    omega
  simp [Text.inBands, anyOctet, hb]

theorem isMatch_containsRegex (text : Bytes) :
    (containsRegex start needle).isMatch text = true ↔
      ∃ between rest, text = start ++ between ++ needle ++ rest := by
  have hneedle : (sequence (needle.map fun b => literal [b])).Denotes (· = needle) := by
    have hempty : (sequence []).Denotes (· = []) := denotes_empty
    have := denotes_sequence_literals needle hempty
    rw [List.append_nil] at this
    exact this.congr fun x => by simp
  have hgap : (sequence (.times (.octet anyOctet) 0 none ::
      needle.map fun b => literal [b])).Denotes _ := (denotes_any inBands_anyOctet).seq hneedle
  rw [containsRegex]
  change (Regex.seq _ (sequence _)).isMatch text = true ↔ _
  rw [isMatch_textStart (denotes_sequence_literals start hgap)]
  constructor
  · rintro ⟨_, ⟨_, ⟨between, _, -, rfl, rfl⟩, rfl⟩, rest, rfl⟩
    exact ⟨between, rest, by simp⟩
  · rintro ⟨between, rest, rfl⟩
    exact ⟨_, ⟨_, ⟨between, needle, trivial, rfl, rfl⟩, rfl⟩, rest, by simp⟩

theorem ofReversed_of_two_le {ps : List Piece} (h : 2 ≤ ps.length) :
    Piece.ofReversed ps =
      ⟨sequence (ps.reverse.map (·.regex)), .sequence (ps.reverse.map (·.shape)),
        (ps.reverse.map (·.depth)).foldl max 0 + 1, true⟩ := by
  match ps, h with
  | _ :: _ :: _, _ => rfl

theorem length_containsPieces : 2 ≤ (containsPieces start needle).length := by
  simp [containsPieces]
  omega

theorem reverse_containsPieces :
    (containsPieces start needle).reverse =
      anchor :: (start.map octetPiece ++ gap :: needle.map octetPiece) := by
  simp [containsPieces]

theorem regex_containsPieces :
    (Piece.ofReversed (containsPieces start needle)).regex = containsRegex start needle := by
  rw [ofReversed_of_two_le (length_containsPieces start needle), reverse_containsPieces]
  simp only [List.map_cons, List.map_append, List.map_map]
  rfl

theorem depth_containsPieces : (Piece.ofReversed (containsPieces start needle)).depth = 2 := by
  have hoctets : ∀ (bytes : Bytes) (n : Nat),
      ((bytes.map octetPiece).map (·.depth)).foldl max n = n := by
    intro bytes n
    induction bytes generalizing n with
    | nil => rfl
    | cons b bytes ih =>
      change List.foldl max (max n 0) _ = n
      rw [Nat.max_zero, ih]
  rw [ofReversed_of_two_le (length_containsPieces start needle), reverse_containsPieces]
  simp only [List.map_cons, List.map_append, List.foldl_cons, List.foldl_append, hoctets]
  rfl

end Contains

end Regex

end MailIndex
