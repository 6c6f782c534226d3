import DeckDump.Proofs.Compound.Sections
import DeckDump.Proofs.Dump.Policy
import Mathlib.Data.List.Nodup

/-!
# The payloads of a document

A document is listed entry by entry and looked up by name, so the payload that an entry is dumped with is
that of the first entry of its name:

* `ownBytes?`, `firstBytes?`: an entry's own payload, and that of the first entry of its name;
* `lookup_eq_ok_iff`: what a lookup answers;
* `DumpsPayloads`: a dump whose reports and decoder calls are those of the listed entries in order;
* `dumpsPayloads_first`: every dump that comes to its end is one, with the payloads of the first entries;
* `run_payloads`: so are payloads an entry's own where no two listed entries share a name;
* `not_dumpsPayloads_own`: two streams of one name show that they need not be otherwise.
-/

namespace DeckDump

/-- The decoder and the entry of a decoder's call. -/
def Call.handed : Call → Option (Route × Entry)
  | .lookup _ _ => none
  | .decode route entry _ _ _ => some (route, entry)

namespace Dump

/-- The entry that a visit has handed to its decoder; an empty one if it was not found. -/
def Visited.entry : Visited → Entry
  | missed name _ => ⟨name, #[]⟩
  | dumped _ entry _ _ _ => entry

theorem Visited.answer_of_found {v : Visited} (h : v.Found) : v.answer = .ok v.entry := by
  cases v with
  | missed => cases h
  | dumped => rfl

theorem Visited.size_eq (v : Visited) : v.size = v.entry.bytes.size := by cases v <;> rfl

/-- Visits that found their entries have handed each to its decoder. -/
theorem handed_calls {visits : List Visited} (found : ∀ v ∈ visits, v.Found) :
    (visits.flatMap Visited.calls).filterMap Call.handed = visits.map fun v => (Route.ofName v.name, v.entry) := by
  rw [List.filterMap_flatMap, List.map_eq_flatMap]
  refine List.flatMap_congr fun v mem => ?_
  cases v with
  | missed => cases found _ mem
  | dumped => rfl

/-- A dump that comes to its end has visited all listed names, and found each. -/
theorem exists_visits {c : Container Unit} {ds : Decoders Unit} {s s' : Session} {o : DumpOutcome} {calls : List Call}
    (dumped : run c.recorded ds.recorded (s, ((), [])) = (.ok o, (s', ((), calls)))) (finished : o.aborted = none) :
    ∃ visits : List Visited, visits.map Visited.name = listed c.names ∧
      (∀ v ∈ visits, (c.lookup v.name ()).1 = .ok v.entry) ∧
      o.entries.toList = visits.map Visited.report ∧
      calls.filterMap Call.handed = visits.map fun v => (Route.ofName v.name, v.entry) := by
  obtain ⟨visits, rest, names, ended, told, rfl, entries, aborted⟩ := run_answered dumped
  rw [aborted] at finished
  obtain ⟨all, rfl⟩ | ⟨front, name, e, rfl, -⟩ := ended
  · refine ⟨visits, ?_, fun v mem => ?_, entries, handed_calls all⟩
    · rw [names, List.append_nil]
    · obtain ⟨⟨⟩, answer⟩ := told v mem
      rw [← answer, Visited.answer_of_found (all v mem)]
  · rw [aborted_outcomeOf_missed] at finished
    cases finished

end Dump

namespace Compound.Document

open Dump (listed Visited)

/-- The payload of an entry itself: the bytes at its path if it is a stream, and none otherwise. A stream that
cannot be read has no payload. -/
def ownBytes? (d : Document) (e : ListedEntry) : Option Bytes :=
  match e.type, e.path with
  | .stream, none => none
  | .stream, some path => (d.fetch path).toOption
  | _, _ => some #[]

/-- The first entry of a name. -/
def firstNamed? (d : Document) (name : String) : Option ListedEntry := d.entries.toList.find? (·.name = name)

/-- The payload of the first entry that has the name of an entry. -/
def firstBytes? (d : Document) (e : ListedEntry) : Option Bytes := (d.firstNamed? e.name).bind d.ownBytes?

/-- The entries that a dump does not pass over. -/
def listedEntries (d : Document) : List ListedEntry :=
  d.entries.toList.filter fun e => e.name ≠ "" ∧ e.name ≠ "Root Entry"

theorem listed_names (d : Document) : listed d.names = d.listedEntries.map (·.name) := by
  rw [listed, names, listedEntries, List.filter_map]
  rfl

/-- A lookup gives the payload of the first entry of the name. -/
theorem toOption_lookup (d : Document) (name : String) :
    (d.lookup name).toOption = ((d.firstNamed? name).bind d.ownBytes?).map (Entry.mk name) := by
  rw [lookup, firstNamed?]
  cases d.entries.toList.find? (·.name = name) with
  | none => rfl
  | some e =>
    rw [Option.bind_some, ownBytes?]
    dsimp only
    generalize e.type = type, e.path = path
    cases type with
    | root | storage | unused | unknown => cases path <;> rfl
    | stream =>
      cases path with
      | none => rfl
      | some path =>
        dsimp only
        cases d.fetch path <;> rfl

theorem fst_lookup_container (d : Document) (name : String) :
    (d.container.lookup name ()).1 = (d.lookup name).mapError Error.lookup := rfl

theorem lookup_container {d : Document} {name : String} {entry : Entry}
    (found : (d.container.lookup name ()).1 = .ok entry) :
    entry.name = name ∧ (d.firstNamed? name).bind d.ownBytes? = some entry.bytes := by
  have ok : (d.lookup name).toOption = some entry := by
    rw [fst_lookup_container] at found
    cases looked : d.lookup name with
    | error e => rw [looked] at found; cases found
    | ok entry' => rw [looked] at found; cases found; rfl
  rw [toOption_lookup, Option.map_eq_some_iff] at ok
  obtain ⟨bytes, first, rfl⟩ := ok
  exact ⟨rfl, first⟩

/-- The dump with outcome `o` and recorded calls has one report and one decoder call for each listed entry, in
order, with the payload that `source` gives for the entry. -/
structure DumpsPayloads (d : Document) (source : ListedEntry → Option Bytes) (o : DumpOutcome)
    (calls : List Call) : Prop where
  reports : o.entries.size = d.listedEntries.length
  handed : (calls.filterMap Call.handed).length = d.listedEntries.length
  payload : ∀ (i : Nat) (e : ListedEntry), d.listedEntries[i]? = some e →
    ∃ (bytes : Bytes) (report : EntryReport), source e = some bytes ∧
    o.entries[i]? = some report ∧ report.name = e.name ∧ report.size = bytes.size ∧
    (calls.filterMap Call.handed)[i]? = some (Route.ofName e.name, Entry.mk e.name bytes)

/-- A dump that comes to its end dumps each listed entry with the payload of the first entry of its name. -/
theorem dumpsPayloads_first {d : Document} {ds : Decoders Unit} {s s' : Session} {o : DumpOutcome} {calls : List Call}
    (dumped : Dump.run d.container.recorded ds.recorded (s, ((), [])) = (.ok o, (s', ((), calls))))
    (finished : o.aborted = none) : d.DumpsPayloads d.firstBytes? o calls := by
  obtain ⟨visits, names, found, entries, handed⟩ := Dump.exists_visits dumped finished
  have listed_eq : visits.map Visited.name = d.listedEntries.map (·.name) := names.trans d.listed_names
  have count : visits.length = d.listedEntries.length := by simpa using congrArg List.length listed_eq
  refine ⟨?_, ?_, fun i e at_i => ?_⟩
  · rw [← Array.length_toList, entries, List.length_map, count]
  · rw [handed, List.length_map, count]
  · have name_at : (visits.map Visited.name)[i]? = some e.name := by rw [listed_eq, List.getElem?_map, at_i]; rfl
    rw [List.getElem?_map, Option.map_eq_some_iff] at name_at
    obtain ⟨v, v_at, name⟩ := name_at
    obtain ⟨entry_name, first⟩ := lookup_container (found v (List.mem_of_getElem? v_at))
    rw [name] at entry_name first
    refine ⟨v.entry.bytes, v.report, first, ?_, name, v.size_eq, ?_⟩
    · rw [← Array.getElem?_toList, entries, List.getElem?_map, v_at]
      rfl
    · rw [handed, List.getElem?_map, v_at, Option.map_some, name, ← entry_name]

theorem firstNamed?_of_mem {d : Document} {e : ListedEntry} (mem : e ∈ d.listedEntries) :
    ∃ first ∈ d.listedEntries, first.name = e.name ∧ d.firstNamed? e.name = some first := by
  obtain ⟨inside, shown⟩ := List.mem_filter.1 mem
  cases found : d.firstNamed? e.name with
  | none => exact absurd (List.find?_eq_none.1 found e inside) (by simp)
  | some first =>
    have name : first.name = e.name := by simpa using List.find?_some found
    rw [← name] at shown
    exact ⟨first, List.mem_filter.2 ⟨List.mem_of_find?_eq_some found, shown⟩, name, rfl⟩

/-- Where no two listed entries share a name, the first entry of a listed name is the entry itself. -/
theorem firstBytes?_of_nodup {d : Document} (distinct : (d.listedEntries.map (·.name)).Nodup) {e : ListedEntry}
    (mem : e ∈ d.listedEntries) : d.firstBytes? e = d.ownBytes? e := by
  obtain ⟨first, listed, name, found⟩ := d.firstNamed?_of_mem mem
  rw [firstBytes?, found, Option.bind_some, List.inj_on_of_nodup_map distinct listed mem name]

theorem DumpsPayloads.congr {d : Document} {source source' : ListedEntry → Option Bytes} {o : DumpOutcome}
    {calls : List Call} (h : d.DumpsPayloads source o calls) (same : ∀ e ∈ d.listedEntries, source e = source' e) :
    d.DumpsPayloads source' o calls where
  reports := h.reports
  handed := h.handed
  payload i e at_i := by
    rw [← same e (List.mem_of_getElem? at_i)]
    exact h.payload i e at_i

/-- A dump that comes to its end dumps the listed entries in order, each with the payload of the first entry of
its name; that is its own payload if no other listed entry has the name. With the decoders of a presentation
and a sink that never fails, a dump ends with an outcome. -/
theorem run_payloads (d : Document) (ds : Decoders Unit) (s : Session) :
    match Dump.run d.container.recorded ds.recorded (s, ((), [])) with
    | (.ok o, (_, (_, calls))) => o.aborted = none → d.DumpsPayloads d.firstBytes? o calls ∧
        ((d.listedEntries.map (·.name)).Nodup → d.DumpsPayloads d.ownBytes? o calls)
    | (.error _, _) => ∀ config, ds = Dump.decoders config → ¬ s.sink.NeverFails := by
  rcases dumped : Dump.run d.container.recorded ds.recorded (s, ((), [])) with ⟨e | o, s', u, calls⟩
  · rintro config rfl free
    have plain := Dump.run_recorded d.container (Dump.decoders config) s () []
    rw [(d.dump_follows config s.sink.muted).of_neverFails free, dumped] at plain
    cases plain
  · intro finished
    have first := dumpsPayloads_first dumped finished
    exact ⟨first, fun distinct => first.congr fun e mem => firstBytes?_of_nodup distinct mem⟩

/-! ## Two streams of one name -/

/-- A document with two streams of one name in two storages. -/
def twins : Document :=
  let entry (id : EntryId) (name : String) (type : ObjectType) (path : Path) : ListedEntry :=
    ⟨id, name, some path, type, 0, none, 0⟩
  ⟨Header.fields #[], none,
    #[entry 0 "Root Entry" .root "/", entry 1 "A" .storage "/A", entry 2 "B" .storage "/B",
      entry 3 "Foo" .stream "/A/Foo", entry 4 "Foo" .stream "/B/Foo"],
    0, true, fun path => .ok (if path = "/A/Foo" then #[97, 98, 99] else #[104, 101, 108, 108, 111])⟩

theorem exists_dump_twins :
    ∃ o s' calls, Dump.run twins.container.recorded (Dump.decoders {}).recorded (default, ((), [])) =
      (.ok o, (s', ((), calls))) ∧ o.aborted = none := by
  have free : (default : Session).sink.NeverFails := .inr rfl
  have plain := Dump.run_recorded twins.container (Dump.decoders {}) default () []
  rw [(twins.dump_follows {} false).of_neverFails free] at plain
  rcases dumped : Dump.run twins.container.recorded (Dump.decoders {}).recorded (default, ((), [])) with
    ⟨e | o, s', u, calls⟩ <;> rw [dumped] at plain
  · cases plain
  · refine ⟨o, s', calls, rfl, ?_⟩
    have told : o.aborted = (Dump.walkOutcome twins.answers {}).aborted := by cases plain; rfl
    rw [told]
    decide +kernel

/-- The second stream is handed the bytes of the first. -/
theorem run_payloads_twins :
    ∃ o s' calls, Dump.run twins.container.recorded (Dump.decoders {}).recorded (default, ((), [])) =
        (.ok o, (s', ((), calls))) ∧
      o.aborted = none ∧ (calls.filterMap Call.handed)[3]? = some (.raw, ⟨"Foo", #[97, 98, 99]⟩) := by
  obtain ⟨o, s', calls, dumped, finished⟩ := exists_dump_twins
  have payloads := run_payloads twins (Dump.decoders {}) default
  rw [dumped] at payloads
  obtain ⟨bytes, -, source, -, -, -, handed⟩ := (payloads finished).1.payload 3 twins.entries[4] rfl
  obtain rfl : #[97, 98, 99] = bytes := Option.some.inj source
  exact ⟨o, s', calls, dumped, finished, handed⟩

/-- The second of two streams of one name is dumped with the payload of the first. -/
theorem not_dumpsPayloads_own :
    ∃ o s' calls, (default : Session).sink.NeverFails ∧ o.aborted = none ∧
      Dump.run twins.container.recorded (Dump.decoders {}).recorded (default, ((), [])) = (.ok o, (s', ((), calls))) ∧
      ¬ twins.DumpsPayloads twins.ownBytes? o calls := by
  obtain ⟨o, s', calls, dumped, finished⟩ := exists_dump_twins
  refine ⟨o, s', calls, .inr rfl, finished, dumped, fun own => ?_⟩
  have first := dumpsPayloads_first dumped finished
  obtain ⟨bytes, report, source, found, -, size, -⟩ := first.payload 3 twins.entries[4] rfl
  obtain ⟨bytes', report', source', found', -, size', -⟩ := own.payload 3 twins.entries[4] rfl
  obtain rfl : #[97, 98, 99] = bytes := Option.some.inj source
  obtain rfl : #[104, 101, 108, 108, 111] = bytes' := Option.some.inj source'
  rw [found] at found'
  cases found'
  rw [size] at size'
  cases size'

end Compound.Document

end DeckDump
