import MailIndex.Program
import MailIndex.Proofs.Store.Script

namespace MailIndex

/-- Whether a store takes every value that it is given. Other calls may fail. -/
def RowStore.TakesValues (σ : Type) [RowStore σ] : Prop :=
  ∀ (k : σ) (a : CellAddress) (value : Bytes), (RowStore.put k a value).1 = .ok ()

theorem KeyedStore.takesValues : RowStore.TakesValues KeyedStore := fun _ _ _ => rfl

namespace Script

variable {α β σ : Type} [RowStore σ]

def OnlyScans : Script α → Prop
  | done _ => True
  | put _ _ _ => False
  | get _ _ => False
  | delete _ _ => False
  | scan _ _ _ next => ∀ shown, (next shown).OnlyScans
  | collectIds _ _ _ next => ∀ answer, (next answer).OnlyScans

theorem OnlyScans.bind {x : Script α} {f : α → Script β} (h : x.OnlyScans)
    (hf : ∀ r, (f r).OnlyScans) : (x >>= f).OnlyScans := by
  change (x.bind f).OnlyScans
  induction x with
  | done result => exact hf result
  | put a value next ih => exact h.elim
  | get a next ih => exact h.elim
  | delete a next ih => exact h.elim
  | scan family start matcher next ih => exact fun shown => ih shown (h shown)
  | collectIds family start matcher next ih => exact fun answer => ih answer (h answer)

theorem OnlyScans.run_eq {x : Script α} (h : x.OnlyScans) (k : σ) : (x.run k).2 = k := by
  induction x with
  | done result => rfl
  | put a value next ih => exact h.elim
  | get a next ih => exact h.elim
  | delete a next ih => exact h.elim
  | scan family start matcher next ih => exact ih _ (h _)
  | collectIds family start matcher next ih => exact ih _ (h _)

def KeepsOnError (σ : Type) [RowStore σ] {ε : Type} (x : Script (Except ε α)) : Prop :=
  ∀ (k : σ) (e : ε), (x.run k).1 = .error e → (x.run k).2 = k

namespace KeepsOnError

variable {ε : Type} {x : Script (Except ε α)}

theorem of_onlyScans (h : x.OnlyScans) : x.KeepsOnError σ := fun k _ _ => h.run_eq k

theorem of_forall_ok (h : ∀ k : σ, ∃ r, (x.run k).1 = .ok r) : x.KeepsOnError σ := by
  intro k e he
  obtain ⟨r, hr⟩ := h k
  rw [hr] at he
  cases he

theorem error (e : ε) : (pure (.error e) : Script (Except ε α)).KeepsOnError σ := fun _ _ _ => rfl

theorem map (h : x.KeepsOnError σ) (f : α → β) :
    (do return (← x).map f : Script (Except ε β)).KeepsOnError σ := by
  intro k e he
  rw [run_bind] at he ⊢
  refine h k e ?_
  cases hx : (x.run k).1 with
  | ok r =>
    rw [hx] at he
    cases he
  | error e' =>
    rw [hx] at he
    cases he
    rfl

end KeepsOnError

end Script

open Script (KeepsOnError OnlyScans)

theorem MailboxScan.onlyScans_run (options : ScanOptions) (clock : Clock) (m : MailboxId)
    (filter : RowFilter) : (run options clock m filter).OnlyScans := by
  rw [run, runWith]
  split
  · trivial
  · split
    · exact fun _ => trivial
    · exact fun _ => trivial

namespace Index

section Searching

variable (options : ScanOptions) (clock : Clock)

theorem onlyScans_search (m : MailboxId) (criteria : List Criterion) :
    (search options clock m criteria).OnlyScans := by
  rw [search, searchWith]
  split
  · trivial
  · exact MailboxScan.onlyScans_run options clock m _

theorem onlyScans_answer (r : SearchRequest) : (answer options clock r).OnlyScans := by
  rw [answer]
  split
  · trivial
  · exact onlyScans_search options clock r.mailbox r.criteria

end Searching

section Storing

variable {σ : Type} [RowStore σ] (h : RowStore.TakesValues σ) (m : MailboxId) (id : MessageId)
include h

theorem run_writePostings_eq_ok (ps : List Posting) (k : σ) :
    ((writePostings m id ps).run k).1 = .ok () := by
  induction ps generalizing k with
  | nil => rfl
  | cons p ps ih =>
    have hput : ((Script.putCell (postingCell m id p) presence).run k).1 = .ok () := h k _ _
    rw [writePostings, Script.run_bind, hput]
    exact ih _

theorem run_store_eq_ok (flags : MessageFlags) (ps : Postings) (k : σ) :
    ((store m id flags ps).run k).1 = .ok () := by
  have hput : ((Script.putCell (flagsCell m id) flags.encodeBytes).run k).1 = .ok () := h k _ _
  rw [store, Script.run_bind, hput]
  exact run_writePostings_eq_ok h m id _ _

theorem keepsOnError_storeRaw (flags : MessageFlags) (raw : Bytes) (date : Millis) :
    (storeRaw m id flags raw date).KeepsOnError σ := by
  rw [storeRaw, storeRawWith]
  split
  · exact .error _
  · exact .of_forall_ok fun k => ⟨(), run_store_eq_ok h m id flags _ k⟩

end Storing

end Index

namespace CommandLine.Command

def Asks : Command → Prop
  | .search .. => True
  | .list .. => True
  | _ => False

section Running

variable (options : ScanOptions) (clock : Clock) (files : Files) (now : Millis)

theorem onlyScans_run {command : Command} (h : command.Asks) :
    (command.run options clock files now).OnlyScans := by
  cases command with
  | index m id names date file => exact h.elim
  | search m terms json =>
    change (runSearch options clock m terms json).OnlyScans
    rw [runSearch]
    split
    · trivial
    · exact (Index.onlyScans_answer options clock _).bind fun _ => trivial
  | delete m ids => exact h.elim
  | flags m ids names => exact h.elim
  | list m json => exact (Index.onlyScans_search options clock m [.all]).bind fun _ => trivial

variable {σ : Type} [RowStore σ] (h : RowStore.TakesValues σ)
include h

theorem keepsOnError_runIndex (m : MailboxId) (id : MessageId) (names : Option String)
    (date : Option Millis) (file : String) :
    (runIndex files now m id names date file).KeepsOnError σ := by
  rw [runIndex]
  split
  · exact .error _
  · split
    · exact .error _
    · exact (Index.keepsOnError_storeRaw h m id _ _ _).map _

theorem keepsOnError_run (command : Command) :
    (command.run options clock files now).KeepsOnError σ := by
  cases command with
  | index m id names date file => exact keepsOnError_runIndex files now h m id names date file
  | search m terms json => exact .of_onlyScans (onlyScans_run options clock files now trivial)
  | delete m ids => exact .of_forall_ok fun k => ⟨_, by rw [run, Script.run_bind]; rfl⟩
  | flags m ids names =>
    rw [run]
    split
    · exact .error _
    · exact .of_forall_ok fun k => ⟨_, by rw [Script.run_bind]; rfl⟩
  | list m json => exact .of_onlyScans (onlyScans_run options clock files now trivial)

theorem snd_run_eq {command : Command} {k : σ}
    (hwhy : (∃ e, ((command.run options clock files now).run k).1 = .error e) ∨ command.Asks) :
    ((command.run options clock files now).run k).2 = k := by
  rcases hwhy with ⟨e, he⟩ | hasks
  · exact keepsOnError_run options clock files now h command k e he
  · exact (onlyScans_run options clock files now hasks).run_eq k

end Running

end CommandLine.Command

namespace Run

open CommandLine

variable {w : World} {settings : Settings} {path : String} {after : KeyedStore}

theorem exists_of_index_eq_some (h : (ofSettings w settings).index = some (path, after)) :
    ∃ index, path = settings.databasePath ∧ openIndex w.files path = .ok index ∧
      ((settings.command.run settings.scanOptions w.clock w.files w.now).run index).2 = after ∧
      ((ofSettings w settings).error.isSome = true → ∃ e,
        ((settings.command.run settings.scanOptions w.clock w.files w.now).run index).1 =
          .error e) := by
  rw [ofSettings] at h ⊢
  cases hlogging : checkLogging w.paths settings with
  | error e =>
    rw [hlogging] at h
    cases h
  | ok =>
    cases hopen : openIndex w.files settings.databasePath with
    | error e =>
      rw [hlogging, hopen] at h
      cases h
    | ok index =>
      simp only [hlogging, hopen] at h ⊢
      cases hrun : (settings.command.run settings.scanOptions w.clock w.files w.now).run index with
      | mk answer left =>
        rw [hrun] at h
        cases answer with
        | error e =>
          cases h
          refine ⟨index, rfl, hopen, ?_, fun _ => ⟨e, ?_⟩⟩ <;> rw [hrun]
        | ok output =>
          cases h
          refine ⟨index, rfl, hopen, ?_, fun herror => ?_⟩
          · rw [hrun]
          · simp at herror

/-- A command that comes to an error leaves the cells of any store that takes values as they were,
and a search or a list does so whatever it comes to. A run of the program that ends with an error,
or was made to search or list, leaves no index or the one that it opened. -/
theorem failing_commands_keep_cells :
    (∀ (σ : Type) [RowStore σ], RowStore.TakesValues σ →
      ∀ (options : ScanOptions) (clock : Clock) (files : Files) (now : Millis) (command : Command)
        (k : σ),
        (∃ e, ((command.run options clock files now).run k).1 = .error e) ∨ command.Asks →
          ((command.run options clock files now).run k).2 = k) ∧
    ∀ (w : World) (settings : Settings) (path : String) (after : KeyedStore),
      (ofSettings w settings).index = some (path, after) →
      (ofSettings w settings).error.isSome = true ∨ settings.command.Asks →
        path = settings.databasePath ∧ openIndex w.files path = .ok after := by
  refine ⟨fun σ _ hσ options clock files now _ _ hwhy =>
    Command.snd_run_eq options clock files now hσ hwhy, fun w settings path after hindex hwhy => ?_⟩
  obtain ⟨index, hpath, hopen, hafter, herror⟩ := exists_of_index_eq_some hindex
  rw [Command.snd_run_eq _ _ _ _ KeyedStore.takesValues (hwhy.imp_left herror)] at hafter
  exact ⟨hpath, hafter ▸ hopen⟩

def flagged : KeyedStore :=
  ⟨SortedMap.insert ∅ (CellKey.encode (Index.flagsCell (.ofNat 7) 7)) [92]⟩

def misnaming : Command := .flags (.ofNat 7) [⟨7, 7⟩] "\\Foo"

def hurried : Settings :=
  ⟨"off", true, false, false, 5, "/", 0, .colocated, 1, .propagate, .list (.ofNat 7) false⟩

def slowWorld : World := ⟨fun _ => none, fun _ => none, 0, fun _ => 1⟩

theorem failing_commands_keep_cells_of_flagged :
    (∃ e, ((misnaming.run .default .still (fun _ => none) 0).run flagged).1 = .error e) ∧
      ((misnaming.run .default .still (fun _ => none) 0).run flagged).2 = flagged ∧
      (ofSettings slowWorld hurried).error = some (.scanAborted (.ofNat 7) (.expired 1)) ∧
      (ofSettings slowWorld hurried).index = some ("/index.db", ∅) ∧
      openIndex slowWorld.files "/index.db" = .ok ∅ := by
  have hmisnaming :
      ∃ e, ((misnaming.run .default .still (fun _ => none) 0).run flagged).1 = .error e :=
    ⟨.flag (.unknownName "\\Foo"), by rfl⟩
  have herror : (ofSettings slowWorld hurried).error =
      some (.scanAborted (.ofNat 7) (.expired 1)) := by
    decide +kernel
  have hindex : (ofSettings slowWorld hurried).index = some ("/index.db", ∅) := by rfl
  refine ⟨hmisnaming, ?_, herror, hindex, ?_⟩
  · exact failing_commands_keep_cells.1 KeyedStore KeyedStore.takesValues _ _ _ _ misnaming flagged
      (.inl hmisnaming)
  · refine (failing_commands_keep_cells.2 _ _ _ _ hindex (.inl ?_)).2
    rw [herror]
    rfl

end Run

end MailIndex
