import DeckDump.Dump.Walk
import DeckDump.Proofs.Compound.Sections
import DeckDump.Proofs.Record.Lines

/-!
# Lines of a dump

A document cannot make a dump show lines that were not meant, by what it calls its entries or what it writes into
its texts. The three parts of a dump that show such words have as many clean lines as they should:

* `clean_titleLines`: a title is four lines;
* `Document.clean_listing`: the listing of a directory has one line for each entry;
* `visitEntry_ok`: where an entry is found, a visit shows its banner and goes on to decode it;
* `dump_cleanLines`: the directory, the banners and the records, whatever the document holds.
-/

namespace DeckDump

open Text (Clean)

theorem Report.clean_titleLines {title : String} (plain : Text.controls title = []) : Clean 4 (titleLines title) := by
  have rule {c : Char} (shown : Text.isControl c = false) : Text.controls (ruleText c) = [] := Text.controls_fill shown
  refine ⟨rfl, ?_⟩
  simp only [titleLines, List.forall_mem_cons]
  exact ⟨rfl, rule rfl, plain, rule rfl, nofun⟩

namespace Compound

theorem ListedGuid.controls_text (g : ListedGuid) : Text.controls g.text = [] := by
  cases g with
  | stored g => exact g.controls_text
  | walked g => exact Text.controls_toLower g.controls_text

theorem ListedEntry.controls_listingLine (e : ListedEntry) : Text.controls e.listingLine = [] := by
  have label : Text.controls e.type.label = [] := by
    have unused : Text.controls "unused" = [] := rfl
    cases e.type with
    | root | storage | stream => rfl
    | unused | unknown => exact unused
  have clsid : Text.controls e.clsidText = [] := by
    rw [clsidText]
    split <;> simp +decide [ListedGuid.controls_text]
  have state : Text.controls e.stateText = [] := by
    rw [stateText]
    split <;> simp +decide
  refine Text.controls_trimEnd ?_
  simp +decide [label, clsid, state]

/-- The listing has one line for each entry. -/
theorem Document.clean_listing (d : Document) :
    Clean d.entries.size (d.entries.toList.map ListedEntry.listingLine) where
  length := by rw [List.length_map, Array.length_toList]
  clean l mem := by
    obtain ⟨e, -, rfl⟩ := List.mem_map.1 mem
    exact e.controls_listingLine

end Compound

namespace Dump

variable {ω : Type}

theorem controls_banner (entry : Entry) : Text.controls (banner entry) = [] := by
  simp +decide [banner]

/-- What a visit does behind the banner of an entry. -/
def visitBody (ds : Decoders ω) (name : String) (entry : Entry) : Visit ω EntryReport := do
  let outcome ← decode ds (EntryKind.classify name) entry
  Attempt.within (noteOutcome name outcome)
  return ⟨name, EntryKind.classify name, entry.bytes.size, outcome⟩

/-- Where an entry is found, a visit shows its banner and goes on to decode it. -/
theorem visitEntry_ok (c : Container ω) (ds : Decoders ω) {name : String} {entry : Entry} {s : Session} {w w' : ω}
    (free : s.sink.NeverFails) (found : c.lookup name w = (.ok entry, w')) :
    visitEntry c ds name (s, w) = visitBody ds name entry
      ({ s with sink := { s.sink with
          written := s.sink.written ++ s.sink.shows (Text.lineText (Report.titleLines (banner entry))).toUTF8 } },
        w') := by
  have asked : Attempt.beside (c.lookup name) (s, w) = (.ok (.ok entry), (s, w')) := by
    rw [Attempt.beside]
    simp only [ExceptT.mk, found]
  have shown := Report.lines_of_neverFails (Report.titleLines (banner entry)) free
  have banner_run : Attempt.within (Report.section (banner entry)) (s, w') = (.ok (), ({ s with sink := { s.sink with
      written := s.sink.written ++ s.sink.shows (Text.lineText (Report.titleLines (banner entry))).toUTF8 } },
        w')) := by
    rw [Attempt.within, Report.section]
    simp only [ExceptT.mk, shown]
  rw [visitEntry, Attempt.bind_apply, asked]
  simp only [Attempt.bind_apply, banner_run, visitBody]

/-- Where none is found, a visit shows nothing. -/
theorem visitEntry_error (c : Container ω) (ds : Decoders ω) {name : String} {e : Error} {s : Session} {w w' : ω}
    (missing : c.lookup name w = (.error e, w')) : (visitEntry c ds name (s, w)).2.1.sink = s.sink := by
  have asked : Attempt.beside (c.lookup name) (s, w) = (.ok (.error e), (s, w')) := by
    rw [Attempt.beside]
    simp only [ExceptT.mk, missing]
  rw [visitEntry, Attempt.bind_apply, asked]
  rfl

/-- Whatever a document calls its entries and whatever its streams hold, on a sink that never fails the listing of its
directory is four clean lines and one for each entry, each banner of a walk is four clean lines in front of what the
decoder does, and the dump of records is as many clean lines as the records ask for. -/
theorem dump_cleanLines (ω : Type) :
    (∀ d : Compound.Document, ∃ title listing, d.showDirectory.ShowsText (title ++ listing) ∧
      Text.CleanLines 4 title ∧ Text.CleanLines d.entries.size listing ∧
      Text.linesOf listing = d.entries.toList.map Compound.ListedEntry.listingLine) ∧
    (∀ (c : Container ω) (ds : Decoders ω) (name : String) (s : Session) (w : ω), s.sink.NeverFails →
      match c.lookup name w with
      | (.error _, _) => (visitEntry c ds name (s, w)).2.1.sink = s.sink
      | (.ok entry, w') => ∃ text, Text.CleanLines 4 text ∧ visitEntry c ds name (s, w) = visitBody ds name entry
          ({ s with sink := { s.sink with written := s.sink.written ++ s.sink.shows text.toUTF8 } }, w')) ∧
    ∀ (logged : Bool) (bytes : Bytes),
      let seen := (RecordStream.list bytes).seen
      (∀ r ∈ seen, r.Stands bytes ∧ Clean (r.lineCount bytes) r.lines) ∧
      (RecordStream.read logged bytes).ShowsText (Text.lineText (seen.flatMap Seen.lines)) ∧
      Text.CleanLines (Text.total (seen.map (Seen.lineCount bytes))) (Text.lineText (seen.flatMap Seen.lines)) := by
  refine ⟨fun d => ?_, fun c ds name s w free => ?_, fun logged bytes => ?_⟩
  · have title : Clean 4 (Report.titleLines "Directory") := Report.clean_titleLines rfl
    refine ⟨_, _, ?_, title.lineText, d.clean_listing.lineText, Text.linesOf_lineText d.clean_listing.clean⟩
    rw [d.showDirectory_eq, ← Text.lineText_append]
    exact Report.showsText_lines _
  · rcases found : c.lookup name w with ⟨e | entry, w'⟩
    · exact visitEntry_error c ds found
    · exact ⟨_, (Report.clean_titleLines (controls_banner entry)).lineText, visitEntry_ok c ds free found⟩
  · have stands := RecordStream.stands_of_mem_listLevel bytes 0 bytes.size 0
    exact ⟨fun r met => ⟨stands r met, (stands r met).clean⟩, RecordStream.read_showsText logged bytes,
      (Clean.flatMap fun r met => (stands r met).clean).lineText⟩

/-- An entry whose name has a line feed and a delete character in it. -/
theorem dump_cleanLines_lineFeed :
    let entry : Entry := ⟨"a\nb\x7F", #[1, 2, 3]⟩
    let c : Container Unit :=
      { showSummary := pure (), showHeader := pure (), showDirectory := pure (), names := [entry.name],
        lookup := fun _ => pure (.ok entry) }
    ({} : Session).sink.NeverFails ∧ ∃ text, Text.CleanLines 4 text ∧
      visitEntry c (decoders {}) entry.name ({}, ()) =
        visitBody (decoders {}) entry.name entry ({ sink := { written := text.toUTF8 } }, ()) := by
  intro entry c
  have free : ({} : Session).sink.NeverFails := .inr rfl
  obtain ⟨text, clean, visit⟩ := (dump_cleanLines Unit).2.1 c (decoders {}) entry.name {} () free
  refine ⟨free, text, clean, ?_⟩
  rw [visit]
  simp [Sink.shows]

end Dump

end DeckDump
