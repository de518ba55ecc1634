import MailIndex.Proofs.List
import MailIndex.Proofs.Store.Agreement

namespace MailIndex

namespace RowStore

def Call.Changes (a : CellAddress) : Call → Prop
  | .put b _ => b = a
  | .delete b => b = a
  | _ => False

def LastPut (calls : List Call) (a : CellAddress) (value : Bytes) : Prop :=
  ∃ before after, calls = before ++ .put a value :: after ∧ ∀ call ∈ after, ¬ call.Changes a

theorem lastPut_append_singleton {calls : List Call} {call : Call} {a : CellAddress}
    {value : Bytes} :
    LastPut (calls ++ [call]) a value ↔
      call = .put a value ∨ ¬ call.Changes a ∧ LastPut calls a value := by
  constructor
  · rintro ⟨before, after, heq, hafter⟩
    rcases List.eq_nil_or_concat' after with rfl | ⟨after, last, rfl⟩
    · obtain ⟨-, hcall⟩ := List.append_inj' heq rfl
      exact .inl (List.cons.inj hcall).1
    · rw [← List.cons_append, ← List.append_assoc] at heq
      obtain ⟨rfl, hcall⟩ := List.append_inj' heq rfl
      obtain rfl := (List.cons.inj hcall).1
      refine .inr ⟨hafter _ (by simp), before, after, rfl, fun c hc => hafter c ?_⟩
      exact List.mem_append_left _ hc
  · rintro (rfl | ⟨hcall, before, after, rfl, hafter⟩)
    · exact ⟨calls, [], rfl, nofun⟩
    · refine ⟨before, after ++ [call], by simp, fun c hc => ?_⟩
      rcases List.mem_append.1 hc with hc | hc
      · exact hafter c hc
      · rwa [List.mem_singleton.1 hc]

theorem not_lastPut_nil {a : CellAddress} {value : Bytes} : ¬ LastPut [] a value := by
  rintro ⟨before, after, heq, -⟩
  exact List.append_ne_nil_of_right_ne_nil before (List.cons_ne_nil _ _) heq.symm

def after {σ : Type} [RowStore σ] (store : σ) (calls : List Call) : σ :=
  calls.foldl (fun store call => (answer store call).2) store

theorem after_append_singleton {σ : Type} [RowStore σ] (store : σ) (calls : List Call)
    (call : Call) : after store (calls ++ [call]) = (answer (after store calls) call).2 := by
  rw [after, List.foldl_append]
  rfl

end RowStore

namespace Scan

variable {τ : Type}

def stateAfter (visitor : τ → Row → Visit τ) (state : τ) (shown : List Row) : τ :=
  shown.foldl (fun state row =>
    match visitor state row with
    | .next state => state
    | .stop state => state) state

def StopsAt (visitor : τ → Row → Visit τ) (state : τ) (seen : List Row) (row : Row) : Prop :=
  ∃ final, visitor (stateAfter visitor state seen) row = .stop final

/-- Whether these are the rows that a visitor is shown: they come in order, up to and including the
first one at which it stops. -/
structure Shows (visitor : τ → Row → Visit τ) (state : τ) (rows shown : List Row) : Prop where
  shown_prefix : shown <+: rows
  goes_on : ∀ seen row rest, shown = seen ++ row :: rest → rest ≠ [] →
    ¬ StopsAt visitor state seen row
  stops_at_end : shown = rows ∨ ∃ seen row, shown = seen ++ [row] ∧ StopsAt visitor state seen row

variable {visitor : τ → Row → Visit τ} {state state' : τ} {row : Row} {rows shown seen : List Row}

theorem stateAfter_cons (h : visitor state row = .next state') :
    stateAfter visitor state (row :: shown) = stateAfter visitor state' shown := by
  rw [stateAfter, List.foldl_cons, h]
  rfl

theorem stopsAt_cons_iff {last : Row} (h : visitor state row = .next state') :
    StopsAt visitor state (row :: seen) last ↔ StopsAt visitor state' seen last := by
  rw [StopsAt, stateAfter_cons h, StopsAt]

theorem Shows.stop (h : visitor state row = .stop state') :
    Shows visitor state (row :: rows) [row] where
  shown_prefix := List.cons_prefix_cons.2 ⟨rfl, List.nil_prefix⟩
  goes_on seen last rest heq hrest := by
    cases seen with
    | nil => exact absurd (List.cons.inj heq).2.symm hrest
    | cons first seen => simp at heq
  stops_at_end := .inr ⟨[], row, rfl, state', h⟩

theorem Shows.next (h : visitor state row = .next state')
    (hrest : Shows visitor state' rows shown) :
    Shows visitor state (row :: rows) (row :: shown) where
  shown_prefix := List.cons_prefix_cons.2 ⟨rfl, hrest.shown_prefix⟩
  goes_on seen last rest heq hne := by
    cases seen with
    | nil =>
      obtain ⟨rfl, -⟩ := List.cons.inj heq
      rintro ⟨final, hfinal⟩
      cases h.symm.trans hfinal
    | cons first seen =>
      obtain ⟨rfl, htail⟩ := List.cons.inj heq
      rw [stopsAt_cons_iff h]
      exact hrest.goes_on seen last rest htail hne
  stops_at_end := by
    rcases hrest.stops_at_end with rfl | ⟨seen, last, rfl, hstops⟩
    · exact .inl rfl
    · exact .inr ⟨row :: seen, last, rfl, (stopsAt_cons_iff h).2 hstops⟩

theorem exists_shows (visitor : τ → Row → Visit τ) (state : τ) (rows : List Row) :
    ∃ shown, Shows visitor state rows shown ∧
      (visitRows visitor state rows).1 = stateAfter visitor state shown := by
  induction rows generalizing state with
  | nil => exact ⟨[], ⟨List.nil_prefix, by simp, .inl rfl⟩, rfl⟩
  | cons row rows ih =>
    rw [visitRows]
    cases h : visitor state row with
    | stop state' =>
      refine ⟨[row], .stop h, ?_⟩
      simp [stateAfter, h]
    | next state' =>
      obtain ⟨shown, hshows, hstate⟩ := ih state'
      exact ⟨row :: shown, .next h hshows, hstate.trans (stateAfter_cons h).symm⟩

end Scan

namespace MemoryStore

open RowStore

theorem find?_answer {s : MemoryStore} {call : Call} {a : CellAddress} {value : Bytes} :
    (answer s call).2.find? a = some value ↔
      call = .put a value ∨ ¬ call.Changes a ∧ s.find? a = some value := by
  cases call with
  | put b written =>
    change (s.insert b written).find? a = some value ↔ _
    rw [find?_insert]
    by_cases h : a = b
    · simp [h, Call.Changes]
    · simp [h, Ne.symm h, Call.Changes]
  | delete b =>
    change (s.erase b).find? a = some value ↔ _
    rw [find?_erase]
    by_cases h : a = b
    · simp [h, Call.Changes]
    · simp [h, Ne.symm h, Call.Changes]
  | get b => simp [answer, RowStore.get, Call.Changes]
  | scan family start matcher stops => simp [answer, Call.Changes]
  | collectIds family start matcher => simp [answer, Call.Changes]

theorem find?_after_iff {calls : List Call} {a : CellAddress} {value : Bytes} :
    (after (∅ : MemoryStore) calls).find? a = some value ↔ LastPut calls a value := by
  induction calls using List.reverseRecOn with
  | nil => exact iff_of_false nofun not_lastPut_nil
  | append_singleton calls call ih =>
    rw [after_append_singleton, find?_answer, lastPut_append_singleton, ih]

theorem NoEmptyRow.answer {s : MemoryStore} (h : s.NoEmptyRow) (call : Call) :
    (RowStore.answer s call).2.NoEmptyRow := by
  cases call with
  | put a value => exact h.insert a value
  | delete a => exact h.erase a
  | _ => exact h

theorem noEmptyRow_after (calls : List Call) : (after (∅ : MemoryStore) calls).NoEmptyRow := by
  induction calls using List.reverseRecOn with
  | nil => exact noEmptyRow_empty
  | append_singleton calls call ih =>
    rw [after_append_singleton]
    exact ih.answer call

theorem NoEmptyRow.mem_keys_iff {s : MemoryStore} (h : s.NoEmptyRow) {family row : Bytes} :
    row ∈ (s.table family).keys ↔
      ∃ qualifier value, s.find? ⟨family, row, qualifier⟩ = some value := by
  simp only [SortedMap.keys, List.mem_map, find?_eq_some_iff]
  constructor
  · rintro ⟨⟨row, cells⟩, hmem, rfl⟩
    have hrow := SortedMap.get?_eq_some_iff.2 hmem
    obtain ⟨c, hc⟩ := List.exists_mem_of_ne_nil _ (cellsOf_ne_nil (h family row cells hrow))
    exact ⟨c.qualifier, c.value, cells, hrow, mem_cellsOf.1 hc⟩
  · rintro ⟨qualifier, value, cells, hrow, -⟩
    exact ⟨(row, cells), SortedMap.get?_eq_some_iff.1 hrow, rfl⟩

theorem NoEmptyRow.rowCount_eq_ncard {s : MemoryStore} (h : s.NoEmptyRow) (family : Bytes) :
    s.rowCount family =
      {row | ∃ qualifier value, s.find? ⟨family, row, qualifier⟩ = some value}.ncard := by
  have hnodup : (s.table family).keys.Nodup :=
    List.pairwise_map.2 ((s.table family).sorted.imp StrictTotal.ne_of_lt)
  have hkeys : {row | ∃ qualifier value, s.find? ⟨family, row, qualifier⟩ = some value} =
      {row | row ∈ (s.table family).keys} := Set.ext fun row => h.mem_keys_iff.symm
  rw [hkeys, ncard_mem_of_nodup hnodup, rowCount, SortedMap.size, SortedMap.keys, List.length_map]

/-- After any calls a store holds of each cell what was put there last, unless it was deleted since.
No row is empty. A scan shows each row with a cell that passes, with these cells and no others, in
order, up to the first row at which the visitor stops. -/
theorem after_calls_exact (calls : List Call) :
    let s := after (∅ : MemoryStore) calls
    s.NoEmptyRow ∧
      (∀ family, s.rowCount family =
        {row | ∃ qualifier value, LastPut calls ⟨family, row, qualifier⟩ value}.ncard) ∧
      (∀ a, ∃ found, (RowStore.get s a).1 = .ok found ∧
        ∀ value, found = some value ↔ LastPut calls a value) ∧
      (∀ a, ∃ deleted, (RowStore.delete s a).1 = .ok deleted ∧
        (deleted = true ↔ ∃ value, LastPut calls a value)) ∧
      ∀ family start (matcher : Matcher), ∃ rows : List Row,
        rows.Pairwise (fun r r' => r.key < r'.key) ∧
        (∀ r, r ∈ rows ↔ start <+: r.key ∧ r.cells ≠ [] ∧
          r.cells.Pairwise (fun c d => c.qualifier < d.qualifier) ∧
          ∀ c, c ∈ r.cells ↔
            LastPut calls ⟨family, r.key, c.qualifier⟩ c.value ∧ matcher.holds r.key c = true) ∧
        ∀ (τ : Type) (visitor : τ → Row → Visit τ) (state : τ), ∃ shown,
          Scan.Shows visitor state rows shown ∧
          RowStore.visit s family start matcher visitor state =
            (Scan.stateAfter visitor state shown, .ok ()) := by
  intro s
  have hrows := noEmptyRow_after calls
  refine ⟨hrows, fun family => ?_, fun a => ⟨s.find? a, rfl, fun value => find?_after_iff⟩,
    fun a => ⟨(s.find? a).isSome, rfl, ?_⟩, fun family start matcher =>
      ⟨s.rowsFrom family start matcher, pairwise_rowsFrom .., fun r => ?_,
        fun τ visitor state => ?_⟩⟩
  · rw [hrows.rowCount_eq_ncard]
    simp only [find?_after_iff]
  · rw [Option.isSome_iff_exists]
    simp only [s, find?_after_iff]
  · rw [mem_rowsFrom_iff]
    simp only [s, find?_after_iff]
    tauto
  · obtain ⟨shown, hshows, hstate⟩ :=
      Scan.exists_shows visitor state (s.rowsFrom family start matcher)
    exact ⟨shown, hshows, by rw [visit_eq, hstate]⟩

end MemoryStore

end MailIndex
