import DeckDump.Proofs.Compound.Payload

/-!
# Lookups that fail

An entry is looked up by the first of its name, so a lookup fails for a name that no entry has, and for one whose
first entry is a stream that cannot be had. A dump asks for the names of its document's entries, so only the second
can end it:

* `IsFirst`, `Unavailable`, `Unreadable`: the first entry of a name, the streams that cannot be had, and the names
  that stand for one;
* `lookup_fails_iff`, `lookup_ne_noEntry`: which lookups fail, and how;
* `answers_lookup`: what a lookup answers (`Answers`);
* `stops_of_ok`: where the walk of a dump ends (`Stops`);
* `run_stops_at_unreadable`: both for every document, decoders and sink.
-/

namespace DeckDump

namespace Compound.Document

open Dump (listed Visited)

/-- Whether `e` is the first of the entries called `name`. -/
def IsFirst (d : Document) (name : String) (e : ListedEntry) : Prop :=
  e.name = name ∧ ∃ front back, d.entries.toList = front ++ e :: back ∧ ∀ x ∈ front, x.name ≠ name

/-- Whether an entry is a stream that has no path, or cannot be opened or read at its path. -/
def Unavailable (d : Document) (e : ListedEntry) : Prop :=
  e.type = .stream ∧ (e.path = none ∨ ∃ path fault, e.path = some path ∧ d.fetch path = .error fault)

/-- Whether the first entry of a name is a stream that cannot be had. -/
def Unreadable (d : Document) (name : String) : Prop := ∃ e, d.IsFirst name e ∧ d.Unavailable e

variable {d : Document} {name : String}

theorem firstNamed?_eq_some_iff {e : ListedEntry} : d.firstNamed? name = some e ↔ d.IsFirst name e := by
  rw [firstNamed?, List.find?_eq_some_iff_append, IsFirst, decide_eq_true_iff]
  simp

theorem firstNamed?_eq_none_iff : d.firstNamed? name = none ↔ name ∉ d.names := by
  simp [firstNamed?, names]

theorem ownBytes?_eq_none_iff {e : ListedEntry} : d.ownBytes? e = none ↔ d.Unavailable e := by
  rw [ownBytes?, Unavailable]
  generalize e.type = type, e.path = path
  cases type with
  | root | storage | unused | unknown => cases path <;> simp
  | stream =>
    cases path with
    | none => simp
    | some path => cases fetched : d.fetch path <;> simp [fetched, Except.toOption]

theorem ownBytes?_eq_some_iff {e : ListedEntry} {bytes : Bytes} :
    d.ownBytes? e = some bytes ↔ (e.type ≠ .stream ∧ bytes = #[]) ∨
      (e.type = .stream ∧ ∃ path, e.path = some path ∧ d.fetch path = .ok bytes) := by
  rw [ownBytes?]
  generalize e.type = type, e.path = path
  cases type with
  | root | storage | unused | unknown => cases path <;> simp [eq_comm]
  | stream =>
    cases path with
    | none => simp
    | some path => cases fetched : d.fetch path <;> simp [fetched, Except.toOption]

theorem unreadable_iff : d.Unreadable name ↔ ∃ e, d.firstNamed? name = some e ∧ d.ownBytes? e = none := by
  simp only [Unreadable, firstNamed?_eq_some_iff, ownBytes?_eq_none_iff]

/-- A lookup fails for a name that no entry has, and for one whose first entry cannot be had. -/
theorem lookup_fails_iff (d : Document) (name : String) :
    (∃ fault, d.lookup name = .error fault) ↔ name ∉ d.names ∨ d.Unreadable name := by
  have fails : (∃ fault, d.lookup name = .error fault) ↔ (d.lookup name).toOption = none := by
    cases d.lookup name <;> simp [Except.toOption]
  rw [fails, toOption_lookup, Option.map_eq_none_iff, unreadable_iff, ← firstNamed?_eq_none_iff]
  cases d.firstNamed? name <;> simp

/-- The name of an entry is never missing. -/
theorem lookup_ne_noEntry (listed : name ∈ d.names) (other : String) : d.lookup name ≠ .error (.noEntry other) := by
  have found : d.entries.toList.find? (·.name = name) ≠ none := fun none => firstNamed?_eq_none_iff.1 none listed
  rw [lookup]
  cases first : d.entries.toList.find? (·.name = name) with
  | none => exact absurd first found
  | some e =>
    dsimp only
    generalize e.type = type, e.path = path
    cases type with
    | root | storage | unused | unknown => cases path <;> simp
    | stream =>
      cases path with
      | none => simp
      | some path => cases fetched : d.fetch path <;> simp [fetched]

/-- What looking up `name` answers in a dump of `d`. -/
structure Answers (d : Document) (name : String) (answer : Except Error Entry) : Prop where
  fails : (∃ e, answer = .error e) ↔ name ∉ d.names ∨ d.Unreadable name
  kind : ∀ e, answer = .error e → e.kind = .streamLookup
  named : ∀ entry, answer = .ok entry → entry.name = name
  /-- Only streams have a payload. -/
  empty : ∀ entry first, answer = .ok entry → d.IsFirst name first → first.type ≠ .stream → entry.bytes = #[]
  stored : ∀ entry first path, answer = .ok entry → d.IsFirst name first → first.type = .stream →
    first.path = some path → d.fetch path = .ok entry.bytes

theorem answers_lookup (d : Document) (name : String) : d.Answers name (d.container.lookup name ()).1 where
  fails := by
    rw [← lookup_fails_iff, fst_lookup_container]
    cases d.lookup name <;> simp [Except.mapError]
  kind e failed := by
    rw [fst_lookup_container] at failed
    cases looked : d.lookup name with
    | error fault => rw [looked] at failed; cases failed; rfl
    | ok entry => rw [looked] at failed; cases failed
  named entry found := (lookup_container found).1
  empty entry first found named type := by
    have bytes := (lookup_container found).2
    rw [firstNamed?_eq_some_iff.2 named, Option.bind_some, ownBytes?_eq_some_iff] at bytes
    obtain ⟨-, none⟩ | ⟨stream, -⟩ := bytes
    · exact none
    · exact absurd stream type
  stored entry first path found named type at_path := by
    have bytes := (lookup_container found).2
    rw [firstNamed?_eq_some_iff.2 named, Option.bind_some, ownBytes?_eq_some_iff] at bytes
    obtain ⟨other, -⟩ | ⟨-, path', at_path', fetched⟩ := bytes
    · exact absurd type other
    · rw [at_path] at at_path'
      cases at_path'
      exact fetched

/-- Where a dump of `d` ended that has the outcome `o`. -/
inductive Stops (d : Document) (o : DumpOutcome) : Prop
  /-- All listed names can be read, and were visited. -/
  | finished (readable : ∀ name ∈ listed d.names, ¬ d.Unreadable name) (visited : o.visited = listed d.names)
      (aborted : o.aborted = none)
  /-- `name` is the earliest that cannot, was visited last, and is not a missing one. -/
  | stopped (front back : List String) (name : String) (fault : LookupFault)
      (names : listed d.names = front ++ name :: back) (readable : ∀ earlier ∈ front, ¬ d.Unreadable earlier)
      (unreadable : d.Unreadable name) (answer : d.lookup name = .error fault)
      (present : ∀ other, fault ≠ .noEntry other) (visited : o.visited = front ++ [name])
      (aborted : o.aborted = some (Error.lookup fault).message)

theorem Stops.aborted_iff {o : DumpOutcome} (h : d.Stops o) :
    o.aborted.isSome = true ↔ ∃ name ∈ listed d.names, d.Unreadable name := by
  cases h with
  | finished readable visited aborted =>
    refine iff_of_false (by rw [aborted]; exact Bool.false_ne_true) fun ⟨name, mem, unreadable⟩ => ?_
    exact readable name mem unreadable
  | stopped front back name fault names readable unreadable answer present visited aborted =>
    refine iff_of_true (by rw [aborted]; rfl) ⟨name, ?_, unreadable⟩
    rw [names]
    exact List.mem_append_right _ List.mem_cons_self

theorem not_unreadable_of_found {v : Visited} (found : v.Found) (told : v.answer = (d.container.lookup v.name ()).1) :
    ¬ d.Unreadable v.name := by
  rw [Visited.answer_of_found found] at told
  intro unreadable
  obtain ⟨e, failed⟩ := (d.answers_lookup v.name).fails.2 (.inr unreadable)
  rw [← told] at failed
  cases failed

/-- A dump ends where its walk meets the first listed name that cannot be read. -/
theorem stops_of_ok {ds : Decoders Unit} {s : Session} {o : DumpOutcome} {left : Session × Unit}
    (dumped : Dump.run d.container ds (s, ()) = (.ok o, left)) : d.Stops o := by
  have plain := Dump.run_recorded d.container ds s () []
  rcases recorded : Dump.run d.container.recorded ds.recorded (s, ((), [])) with ⟨e | o', s', u, calls⟩ <;>
    rw [recorded, dumped] at plain <;> cases plain
  obtain ⟨visits, rest, names, ended, told, -, entries, aborted⟩ := Dump.run_answered recorded
  have names : listed d.names = visits.map Visited.name ++ rest := names
  have visited : o.visited = visits.map Visited.name := by
    rw [DumpOutcome.visited, entries, List.map_map]
    rfl
  have readable : ∀ v ∈ visits, v.Found → ¬ d.Unreadable v.name := fun v mem found => by
    obtain ⟨⟨⟩, answer⟩ := told v mem
    exact not_unreadable_of_found found answer
  obtain ⟨all, rfl⟩ | ⟨front, name, e, rfl, found⟩ := ended
  · rw [List.append_nil] at names
    refine .finished (fun name mem => ?_) (visited.trans names.symm) (aborted.trans (Dump.aborted_outcomeOf all {}))
    rw [names] at mem
    obtain ⟨v, inside, rfl⟩ := List.mem_map.1 mem
    exact readable v inside (all v inside)
  · rw [List.map_append, List.append_assoc] at names
    have mem : name ∈ listed d.names := by
      rw [names]
      exact List.mem_append_right _ List.mem_cons_self
    have inside : name ∈ d.names := (List.mem_filter.1 mem).1
    obtain ⟨⟨⟩, failed⟩ := told (.missed name e) (List.mem_append_right _ List.mem_cons_self)
    have failed : .error e = (d.container.lookup name ()).1 := failed
    rw [fst_lookup_container] at failed
    cases looked : d.lookup name with
    | ok entry => rw [looked] at failed; cases failed
    | error fault =>
      rw [looked] at failed
      cases failed
      have unreadable := ((d.lookup_fails_iff name).1 ⟨fault, looked⟩).resolve_left (not_not_intro inside)
      refine .stopped _ rest name fault names (fun earlier mem => ?_) unreadable looked (fun other none => ?_)
        (visited.trans List.map_append) (aborted.trans (Dump.aborted_outcomeOf_missed ..))
      · obtain ⟨v, inside, rfl⟩ := List.mem_map.1 mem
        exact readable v (List.mem_append_left _ inside) (found v inside)
      · exact lookup_ne_noEntry inside other (none ▸ looked)

/-- Looking up fails only for a name that no entry has and for one whose first entry is a stream that cannot be had.
So a dump that ends with an outcome is aborted iff a listed name is of the second kind, and at the earliest one;
with the decoders of a presentation and a sink that never fails, a dump ends with an outcome. -/
theorem run_stops_at_unreadable (d : Document) (ds : Decoders Unit) (s : Session) :
    (∀ name, d.Answers name (d.container.lookup name ()).1) ∧
    match Dump.run d.container ds (s, ()) with
    | (.ok o, _) => (o.aborted.isSome = true ↔ ∃ name ∈ listed d.names, d.Unreadable name) ∧ d.Stops o
    | (.error _, _) => ∀ config, ds = Dump.decoders config → ¬ s.sink.NeverFails := by
  refine ⟨d.answers_lookup, ?_⟩
  rcases dumped : Dump.run d.container ds (s, ()) with ⟨e | o, left⟩
  · rintro config rfl free
    rw [(d.dump_follows config s.sink.muted).of_neverFails free] at dumped
    cases dumped
  · exact ⟨(stops_of_ok dumped).aborted_iff, stops_of_ok dumped⟩

/-- A document with a storage, a stream that no storage leads to, and one that cannot be read. -/
def astray : Document :=
  let entry (id : EntryId) (name : String) (type : ObjectType) (path : Option Path) : ListedEntry :=
    ⟨id, name, path, type, 0, none, 0⟩
  ⟨Header.fields #[], none,
    #[entry 0 "Root Entry" .root (some "/"), entry 1 "A" .storage (some "/A"), entry 2 "Lost" .stream none,
      entry 3 "B" .stream (some "/B")],
    0, true, fun path => .error (.cannotOpen path)⟩

/-- Its dump ends at the stream without a path. -/
theorem run_stops_at_unreadable_lost :
    (∃ name ∈ listed astray.names, astray.Unreadable name) ∧
      ∃ o left, Dump.run astray.container (Dump.decoders {}) (default, ()) = (.ok o, left) ∧
        o.visited = ["A", "Lost"] ∧ o.aborted = some (Error.lookup (.unlinked "Lost")).message := by
  obtain ⟨answers, ends⟩ := run_stops_at_unreadable astray (Dump.decoders {}) default
  have names : listed astray.names = ["A", "Lost", "B"] := by decide +kernel
  have readable : ¬ astray.Unreadable "A" := fun unreadable => by
    obtain ⟨e, failed⟩ := (answers "A").fails.2 (.inr unreadable)
    have found : (astray.container.lookup "A" ()).1 = .ok ⟨"A", #[]⟩ := rfl
    rw [found] at failed
    cases failed
  have unreadable : astray.Unreadable "Lost" :=
    ⟨astray.entries[2], ⟨rfl, [astray.entries[0], astray.entries[1]], [astray.entries[3]], rfl, by decide +kernel⟩,
      rfl, .inl rfl⟩
  refine ⟨⟨"Lost", by rw [names]; decide, unreadable⟩, ?_⟩
  rcases dumped : Dump.run astray.container (Dump.decoders {}) (default, ()) with ⟨e | o, left⟩ <;> rw [dumped] at ends
  · exact absurd (.inr rfl) (ends {} rfl)
  refine ⟨o, left, rfl, ?_⟩
  cases ends.2 with
  | finished all => exact absurd unreadable (all "Lost" (by rw [names]; decide))
  | stopped front back name fault split earlier stop answer present visited aborted =>
    rw [names] at split
    match front, split with
    | [], split =>
      cases split
      exact absurd stop readable
    | [_], split =>
      cases split
      have lookup : astray.lookup "Lost" = .error (.unlinked "Lost") := rfl
      rw [lookup] at answer
      cases answer
      exact ⟨visited, aborted⟩
    | _ :: second :: _, split =>
      rw [List.cons_append, List.cons_append, List.cons.injEq, List.cons.injEq] at split
      exact absurd unreadable (earlier "Lost" (by rw [split.2.1]; simp))

end Compound.Document

end DeckDump
