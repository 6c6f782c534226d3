import DeckDump.Compound.Document
import DeckDump.Proofs.Sink

/-!
# Opening a document

Whatever reader a document is opened with, opening it reads nothing of the log and only adds to it, and it never
says that a verdict is a failure:

* `Logged.Appends`: logged attempts that do so, and how they are put together;
* `appends_difatLists`, `appends_read`, `appends_loadTable`, `appends_loadEntries`, `appends_listEntries`: the
  attempts that opening a document is made of;
* `Document.appends_loadWith`: opening a document is one of them;
* `Document.opened`, `loadWith_apply`: how opening a document ends, whatever the log holds;
* `opened_eq`: what it comes to. The header and the reader alone can refuse a file; the tables only decide how the
  entries are listed.
-/

namespace DeckDump

namespace Logged

variable {α β : Type}

/-- Whether an attempt ends the same way on every log, and adds the same events to it, none of which is
the failure of a verdict. -/
def Appends (m : Logged α) : Prop :=
  ∃ (result : Except Error α) (noted : List Event),
    .failure ∉ noted ∧ ∀ log : Log, m log = (result, log ++ noted)

namespace Appends

theorem pure (a : α) : Appends (Pure.pure a) :=
  ⟨.ok a, [], List.not_mem_nil, fun log => by rw [Array.appendList_nil]; rfl⟩

theorem throw (e : Error) : Appends (MonadExcept.throw e : Logged α) :=
  ⟨.error e, [], List.not_mem_nil, fun log => by rw [Array.appendList_nil]; rfl⟩

theorem note {e : Event} (h : e ≠ .failure) : Appends (Logged.note e) :=
  ⟨.ok (), [e], by simpa using h.symm, fun log => by rw [Array.appendList_cons, Array.appendList_nil]; rfl⟩

/-- Only what is noted depends on the log. -/
theorem exists_apply {m : Logged α} (h : Appends m) (log : Log) : ∃ log', m log = ((m #[]).1, log') := by
  obtain ⟨result, noted, -, run⟩ := h
  exact ⟨log ++ noted, by rw [run, run]⟩

theorem bind {m : Logged α} {f : α → Logged β} (first : Appends m) (next : ∀ a, Appends (f a)) : Appends (m >>= f) := by
  obtain ⟨e | a, noted, clean, run⟩ := first
  · exact ⟨.error e, noted, clean, fun log => by rw [Attempt.bind_apply, run]⟩
  · obtain ⟨result, later, clean', run'⟩ := next a
    refine ⟨result, noted ++ later, by simp [clean, clean'], fun log => ?_⟩
    rw [Attempt.bind_apply, run, Log.append_append]
    exact run' _

/-- An attempt that notes the error of another one and goes on with a value of its own. -/
theorem recover {m : Logged α} {n : Logged β} (first : Appends m) (found : α → β) (other : β) (event : Error → Event)
    (clean : ∀ e, event e ≠ .failure)
    (onOk : ∀ log a log', m log = (.ok a, log') → n log = (.ok (found a), log'))
    (onError : ∀ log e log', m log = (.error e, log') → n log = (.ok other, log'.push (event e))) : Appends n := by
  obtain ⟨e | a, noted, quiet, ends⟩ := first
  · refine ⟨.ok other, noted ++ [event e], by simp [quiet, (clean e).symm], fun log => ?_⟩
    rw [onError log e _ (ends log), Log.append_append, Array.appendList_cons, Array.appendList_nil]
  · exact ⟨.ok (found a), noted, quiet, fun log => onOk log a _ (ends log)⟩

/-- An event that is noted under a condition, in front of the rest. -/
theorem noteIf {c : Prop} [Decidable c] {e : Event} {f : Unit → Logged β} (h : e ≠ .failure) (next : Appends (f ())) :
    Appends (if c then Logged.note e >>= f else f ()) := by
  split
  · exact .bind (.note h) fun _ => next
  · exact next

/-- A check in front of the rest. -/
theorem throwIf {c : Prop} [Decidable c] {e : Error} {f : Unit → Logged β} (next : Appends (f ())) :
    Appends (if c then (MonadExcept.throw e : Logged Unit) >>= f else f ()) := by
  split
  · exact .bind (.throw e) fun _ => next
  · exact next

end Appends

end Logged

namespace Compound

open Logged

theorem SectorTable.appends_difatLists (data : Bytes) (header : Header) (limit : Nat) (sector : SectorId)
    (seen : List SectorId) : Appends (difatLists data header limit sector seen) := by
  induction limit generalizing sector seen with
  | zero => exact .pure []
  | succ limit ih =>
    rw [difatLists]
    split
    · exact .pure []
    split
    · exact .throw _
    split
    · exact .bind (.note nofun) fun _ => .pure []
    cases readSector data header sector with
    | error fault => exact .throw _
    | ok bytes => exact .bind (ih _ _) fun later => .pure _

theorem SectorTable.appends_load (data : Bytes) (header : Header) : Appends (load data header) := by
  rw [load]
  refine .bind (appends_difatLists ..) fun difat => .noteIf (by nofun) (.noteIf (by nofun) ?_)
  split
  · exact .throw _
  · exact .bind (.note (by nofun)) fun _ => .pure _

theorem Directory.appends_read (data : Bytes) (header : Header) (table : SectorTable) :
    Appends (read data header table) := by
  rw [read]
  refine .throwIf ?_
  split
  · exact .throw _
  · exact .throwIf (.bind (.note (by nofun)) fun _ => .pure _)

namespace Document

theorem loadTable_apply (data : Bytes) (header : Header) (log : Log) :
    loadTable data header log =
      match SectorTable.load data header log with
      | (.ok table, log) => (.ok (some table), log)
      | (.error e, log) => (.ok none, log.push (.tablesUnavailable e)) := by
  rw [loadTable, Attempt.bind_apply, Attempt.tryCatch_apply, Attempt.bind_apply]
  rcases SectorTable.load data header log with ⟨e | table, log'⟩
  · rfl
  · rfl

theorem loadEntries_apply (data : Bytes) (header : Header) (table : SectorTable) (log : Log) :
    loadEntries data header (some table) log =
      match Directory.read data header table log with
      | (.ok entries, log) => (.ok (some entries), log)
      | (.error e, log) => (.ok none, log.push (.directoryUnreadable e)) := by
  rw [loadEntries, Attempt.bind_apply, Attempt.tryCatch_apply, Attempt.bind_apply]
  rcases Directory.read data header table log with ⟨e | entries, log'⟩
  · rfl
  · rfl

theorem appends_loadTable (data : Bytes) (header : Header) : Appends (loadTable data header) := by
  refine (SectorTable.appends_load data header).recover some none .tablesUnavailable (by nofun) ?_ ?_ <;>
    exact fun log _ _ loaded => by rw [loadTable_apply, loaded]

theorem appends_loadEntries (data : Bytes) (header : Header) (table : Option SectorTable) :
    Appends (loadEntries data header table) := by
  cases table with
  | none => exact .pure none
  | some table =>
    refine (Directory.appends_read data header table).recover some none .directoryUnreadable (by nofun) ?_ ?_ <;>
      exact fun log _ _ loaded => by rw [loadEntries_apply, loaded]

theorem appends_listEntries (reader : Reader) (stored : Option (Array DirectoryEntry)) :
    Appends (listEntries reader stored) := by
  cases stored with
  | some stored => exact .pure _
  | none => exact .bind (.note (by nofun)) fun _ => .pure _

theorem appends_loadWith (openReader : Opener) (data : Bytes) (config : Config) :
    Appends (loadWith openReader data config) := by
  rw [loadWith]
  split
  · exact .throw _
  refine .bind (appends_loadTable ..) fun table => .bind (appends_loadEntries ..) fun stored => ?_
  split
  · exact .throw _
  · exact .bind (appends_listEntries ..) fun entries => .bind (.note (by nofun)) fun _ => .pure _

/-- The document in the bytes of a file, or why there is none. -/
def opened (openReader : Opener) (data : Bytes) (config : Config) : Except Error Document :=
  ((loadWith openReader data config : Logged Document) #[]).1

/-- Opening a document ends the same way on every log, and adds events to it, none of which is the failure of a
verdict. -/
theorem loadWith_apply (openReader : Opener) (data : Bytes) (config : Config) :
    ∃ noted : List Event, .failure ∉ noted ∧
      ∀ log : Log, (loadWith openReader data config : Logged Document) log =
        (opened openReader data config, log ++ noted) := by
  obtain ⟨result, noted, clean, run⟩ := appends_loadWith openReader data config
  refine ⟨noted, clean, fun log => ?_⟩
  rw [opened, run, run]

/-- The sector table of a file, if it can be loaded. -/
def table? (data : Bytes) (header : Header) : Option SectorTable := (SectorTable.load data header #[]).1.toOption

/-- The directory table of a file, if it can be read. -/
def stored? (data : Bytes) (header : Header) (table : Option SectorTable) : Option (Array DirectoryEntry) :=
  table.bind fun table => (Directory.read data header table #[]).1.toOption

theorem exists_loadTable (data : Bytes) (header : Header) (log : Log) :
    ∃ log', loadTable data header log = (.ok (table? data header), log') := by
  obtain ⟨log', loaded⟩ := (SectorTable.appends_load data header).exists_apply log
  rw [loadTable_apply, loaded, table?]
  cases (SectorTable.load data header #[]).1 with
  | error e => exact ⟨_, rfl⟩
  | ok table => exact ⟨_, rfl⟩

theorem exists_loadEntries (data : Bytes) (header : Header) (table : Option SectorTable) (log : Log) :
    ∃ log', loadEntries data header table log = (.ok (stored? data header table), log') := by
  cases table with
  | none => exact ⟨log, rfl⟩
  | some table =>
    obtain ⟨log', read⟩ := (Directory.appends_read data header table).exists_apply log
    rw [loadEntries_apply, read, stored?, Option.bind_some]
    cases (Directory.read data header table #[]).1 with
    | error e => exact ⟨_, rfl⟩
    | ok entries => exact ⟨_, rfl⟩

/-- What opening a document comes to. Its header and its reader can refuse a file. Where its tables cannot be read,
its entries are listed as they are met along the tree. -/
theorem opened_eq (openReader : Opener) (data : Bytes) (config : Config) :
    opened openReader data config =
      match Header.parse data with
      | .error fault => .error (.header fault)
      | .ok header =>
        match openReader data with
        | .error reason => .error (.store reason)
        | .ok reader =>
          let table := table? data header
          let entries := match stored? data header table with
            | some stored => stored.map ListedEntry.ofStored
            | none => reader.listing
          .ok ⟨header, table, entries, data.size, config.showSectorChain, reader.fetch⟩ := by
  rw [opened, loadWith]
  cases Header.parse data with
  | error fault => rfl
  | ok header =>
    obtain ⟨log, loaded⟩ := exists_loadTable data header #[]
    obtain ⟨log', read⟩ := exists_loadEntries data header (table? data header) log
    simp only [Attempt.bind_apply, loaded, read]
    cases openReader data with
    | error reason => rfl
    | ok reader => cases stored? data header (table? data header) <;> rfl

/-- Why a document cannot be opened has nothing to do with the output. -/
theorem inside_of_opened {openReader : Opener} {data : Bytes} {config : Config} {e : Error}
    (refused : opened openReader data config = .error e) : e.isOutputFailure = false := by
  rw [opened_eq] at refused
  split at refused
  · rename_i fault _
    obtain rfl := Except.error.inj refused
    cases fault <;> rfl
  split at refused
  · obtain rfl := Except.error.inj refused
    rfl
  · cases refused

/-- Whether a document can be opened does not depend on the configuration. -/
theorem opened_showing (openReader : Opener) (data : Bytes) (config : Config) :
    opened openReader data config =
      match opened openReader data {} with
      | .ok d => .ok { d with showsChains := config.showSectorChain }
      | .error e => .error e := by
  rw [opened_eq, opened_eq]
  cases Header.parse data with
  | error fault => rfl
  | ok header => cases openReader data <;> rfl

end Document

end Compound

end DeckDump
