import DeckDump.Proofs.Compound.Sections
import DeckDump.Proofs.Record.Cut

/-!
# Dumps on failing sinks

A document whose summaries only print is dumped by a script, so the sink of a dump holds either
the whole output or the first bytes of it, and no output failure is lost:

* `Report.OnlyPrints`, `Container.OnlyPrints`: what is asked of the summaries;
* `onlyPrints_container`: the summaries of a compound document only print;
* `PropertySet.prefixLaw_read`: the law for property sets, as `RecordStream.prefixLaw_read` is for records;
* `run_keeps_prefix`: dumps, record streams and property sets obey the law of a failing sink, and a
  record stream keeps the text whose lines are on the sink.
-/

namespace DeckDump

/-- Whether a report fails only when its sink does: it takes steps, which may depend on the mute switch
alone, up to the first whose write fails. -/
def Report.OnlyPrints (r : Report Unit) : Prop := ∃ steps : Bool → List Step, ∀ s, r s = play (steps s.sink.muted) s

/-- Whether the summaries of a document fail only when the sink does. -/
structure Container.OnlyPrints {ω : Type} (c : Container ω) : Prop where
  summary : c.showSummary.OnlyPrints
  header : c.showHeader.OnlyPrints
  directory : c.showDirectory.OnlyPrints

theorem Report.OnlyPrints.of_lines {r : Report Unit} {ls : List String} (h : r = Report.lines ls) : r.OnlyPrints :=
  ⟨fun _ => Step.lines ls, fun s => by rw [h, Report.lines_eq_play]⟩

/-- The summaries of a compound document only print. -/
theorem Compound.Document.onlyPrints_container (d : Compound.Document) : d.container.OnlyPrints where
  summary := .of_lines d.showSummary_eq
  header := .of_lines d.showHeader_eq
  directory := .of_lines d.showDirectory_eq

/-- Reading a property set stream obeys the law of a failing sink. -/
theorem PropertySet.prefixLaw_read (b : Bytes) : PrefixLaw (PropertySet.read b) := by
  refine .of_script (fun _ => PropertySet.script b) fun s => ?_
  rw [PropertySet.run_script]
  exact ⟨rfl, rfl⟩

namespace Dump

variable {ω : Type}

/-- A document whose summaries only print is dumped by a script for each setting of the mute switch. -/
theorem exists_script (c : Container ω) (prints : c.OnlyPrints) (config : Config) (w : ω) :
    ∃ shown : Bool → List Step, ∀ muted, Visit.Follows (run c (decoders config)) muted w
      (dumpScript (shown muted) config.debug (answers c c.names w).1) (answers c c.names w).2 := by
  obtain ⟨summary, h₁⟩ := prints.summary
  obtain ⟨header, h₂⟩ := prints.header
  obtain ⟨directory, h₃⟩ := prints.directory
  refine ⟨fun muted => summary muted ++ header muted ++ directory muted, fun muted => ?_⟩
  refine run_follows c config muted w ?_ ?_ ?_
  · rintro s rfl
    exact h₁ s
  · rintro s rfl
    exact h₂ s
  · rintro s rfl
    exact h₃ s

/-- No output failure is lost, and a sink that fails holds the first bytes of the output. -/
theorem run_keeps_prefix (c : Container ω) (prints : c.OnlyPrints) (config : Config) (w : ω) :
    (∀ s, s.sink.NeverFails → ∃ o, (run c (decoders config) (s, w)).1 = .ok o) ∧
    PrefixLaw (fun s => ((run c (decoders config) (s, w)).1, (run c (decoders config) (s, w)).2.1)) ∧
    (∀ b, PrefixLaw (PropertySet.read b)) ∧
    ∀ logged b, PrefixLaw (RecordStream.read logged b) ∧
      ∀ s : Session, s.sink.muted = false →
        (RecordStream.read logged b (s.withCapacity .unlimited)).2.sink.written =
          s.sink.written ++ shownLines ((RecordStream.list b).seen.flatMap Seen.lines) ∧
        (∀ r ∈ (RecordStream.list b).seen, ∀ t, r.body.text = some t → ∃ words, t = words ++ "\n" ∧
          r.lines = [r.line, Atom.labelled (r.depth + 1) "text" (Atom.quoted words)]) ∧
        ∀ glitch n, (RecordStream.read logged b (s.withCapacity (.room glitch n))).2.text.fragments.toList =
          s.text.fragments.toList ++ Seen.textsWithin n (RecordStream.list b).seen := by
  obtain ⟨shown, follows⟩ := exists_script c prints config w
  have ends (s : Session) (free : s.sink.NeverFails) : ∃ o, (run c (decoders config) (s, w)).1 = .ok o := by
    rw [(follows s.sink.muted).of_neverFails free]
    exact ⟨_, rfl⟩
  refine ⟨ends, Visit.Follows.prefixLaw follows, PropertySet.prefixLaw_read, fun logged b => ?_⟩
  refine ⟨RecordStream.prefixLaw_read logged b, fun s open_ => ⟨?_, ?_, ?_⟩⟩
  · have free : (s.withCapacity .unlimited).sink.NeverFails := .inr rfl
    rw [RecordStream.read_eq, Script.run_of_neverFails _ free]
    simp [Session.after, Session.withCapacity, Sink.shows, open_, Listing.script, Seen.output_steps]
  · intro r seen t text
    exact RecordStream.lines_of_text seen text
  · intro glitch n
    exact RecordStream.fragments_read logged b open_ glitch n

/-- A document with one stream, whose bytes are no record. -/
theorem run_keeps_prefix_truncated :
    let user : Compound.ListedEntry := ⟨1, "Current User", some "/Current User", .stream, 3, none, 0⟩
    let d : Compound.Document := ⟨Compound.Header.fields #[], none, #[user], 0, true, fun _ => .ok #[0, 0, 0]⟩
    d.container.OnlyPrints ∧ (∃ o, (run d.container (decoders {}) ({}, ())).1 = .ok o) ∧
      PrefixLaw (fun s =>
        ((run d.container (decoders {}) (s, ())).1, (run d.container (decoders {}) (s, ())).2.1)) := by
  intro user d
  have kept := run_keeps_prefix d.container d.onlyPrints_container {} ()
  exact ⟨d.onlyPrints_container, kept.1 {} (.inr rfl), kept.2.1⟩

end Dump

end DeckDump
