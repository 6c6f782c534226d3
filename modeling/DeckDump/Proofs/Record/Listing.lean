import DeckDump.Proofs.Script
import DeckDump.Record.Stream

/-!
# The records that a reading meets

Reading a record stream is two things: finding the records in the bytes, and showing what was
found. `listLevel` does the first alone, with the fault that ends it, if one does; `readLevel_eq`
says that reading is to show what it lists:

* `Seen.lines_eq`: the lines of a record, with that of its header spelled out;
* `Seen.steps`: what is shown, noted and kept of one record;
* `output_record`, `noted_record`, `textAfter_record`: what the steps of a record show, note and keep;
* `output_steps`, `noted_steps`, `textAfter_steps`: what those of records do;
* `Listing.script`: the records in order, then the fault;
* `readLevel_eq`, `read_eq`: a reading is the run of the script of its listing.
-/

namespace DeckDump

/-- A record that a reading has met. -/
structure Seen where
  header : RecordHeader
  /-- Where its header starts in the stream. -/
  offset : Nat
  /-- How many records it lies inside. -/
  depth : Nat
  /-- What its body says; nothing for a record that holds records. -/
  body : AtomReading := {}

namespace Seen

/-- An atom with its body. -/
def atom (header : RecordHeader) (offset depth : Nat) (body : Bytes) : Seen :=
  ⟨header, offset, depth, .ofBody header body (depth + 1)⟩

/-- The line of the record's header: two spaces for each record it lies inside, then the header. -/
def line (r : Seen) : String := Text.fill (2 * r.depth) ' ' ++ r.header.line r.offset

/-- All lines of the record: its header's line and those of its body. -/
def lines (r : Seen) : List String := r.line :: r.body.lines

/-- The event that a logged reading notes of the record. -/
def event (r : Seen) : Event := .recordHeader r.header.type r.offset r.depth r.header.length

/-- What a reading does for the record's header. -/
def headerSteps (logged : Bool) (r : Seen) : List Step :=
  (if logged then [.note r.event] else []) ++ Step.lines [r.line]

/-- The header's line spells out what the header says, and its place in the stream. -/
theorem lines_eq (r : Seen) :
    r.lines = (Text.fill (2 * r.depth) ' ' ++ r.header.type.name ++
      s!" (type: 0x{Text.hex 4 r.header.type.toNat}, ver: 0x{Text.hex 1 r.header.version.val}, " ++
      s!"instance: 0x{Text.hex 3 r.header.inst.val}, size: {r.header.length.toNat}, offset: {r.offset})") ::
        r.body.lines := by
  simp only [lines, line, RecordHeader.line, RecordHeader.name, String.append_assoc]
  rfl

end Seen

/-- What a reading does for what an atom says. -/
def AtomReading.steps (a : AtomReading) : List Step :=
  Step.lines a.lines ++
    match a.text with
    | none => []
    | some t => [.note (.textKept t.utf8ByteSize), .keep t]

/-- What a reading does for a record. -/
def Seen.steps (logged : Bool) (r : Seen) : List Step := r.headerSteps logged ++ r.body.steps

namespace Seen

/-- The events of the text that an atom gives. -/
def textEvents (r : Seen) : List Event := (r.body.text.map fun t => .textKept t.utf8ByteSize).toList

theorem output_record (logged : Bool) (r : Seen) : outputOf (r.steps logged) = shownLines r.lines := by
  -- neither the note of the header nor what follows the body's lines shows anything
  have header : outputOf (r.headerSteps logged) = shownLines [r.line] := by
    rw [headerSteps, outputOf_append, output_lines]
    cases logged <;> simp [outputOf, Step.output]
  have body : outputOf r.body.steps = shownLines r.body.lines := by
    rw [AtomReading.steps, outputOf_append, output_lines]
    cases r.body.text <;> simp [outputOf, Step.output]
  rw [Seen.steps, outputOf_append, header, body, ← shownLines_append, Seen.lines, List.singleton_append]

theorem noted_record (logged : Bool) (r : Seen) :
    notedBy (r.steps logged) = (if logged then [r.event] else []) ++ r.textEvents := by
  rw [Seen.steps, headerSteps, AtomReading.steps, notedBy_append, notedBy_append, notedBy_append, noted_lines,
    noted_lines, List.append_nil, List.nil_append, textEvents]
  cases logged <;> cases r.body.text <;> rfl

theorem textAfter_record (logged : Bool) (t : ExtractedText) (r : Seen) :
    (textAfter t (r.steps logged)).fragments.toList = t.fragments.toList ++ r.body.text.toList := by
  have header : textAfter t (if logged then [.note r.event] else []) = t := by cases logged <;> rfl
  rw [Seen.steps, headerSteps, AtomReading.steps, textAfter_append, textAfter_append, textAfter_append, header,
    textAfter_lines, textAfter_lines]
  cases r.body.text <;> simp [textAfter, Step.keptAfter, ExtractedText.append]

theorem output_steps (logged : Bool) (rs : List Seen) :
    outputOf (rs.flatMap (Seen.steps logged)) = shownLines (rs.flatMap Seen.lines) := by
  induction rs with
  | nil => rfl
  | cons r rs ih =>
    rw [List.flatMap_cons, List.flatMap_cons, outputOf_append, shownLines_append, output_record, ih]

theorem noted_steps (logged : Bool) (rs : List Seen) :
    notedBy (rs.flatMap (Seen.steps logged)) =
      rs.flatMap fun r => (if logged then [r.event] else []) ++ r.textEvents := by
  induction rs with
  | nil => rfl
  | cons r rs ih => rw [List.flatMap_cons, List.flatMap_cons, notedBy_append, noted_record, ih]

theorem textAfter_steps (logged : Bool) (t : ExtractedText) (rs : List Seen) :
    (textAfter t (rs.flatMap (Seen.steps logged))).fragments.toList =
      t.fragments.toList ++ rs.filterMap fun r => r.body.text := by
  induction rs generalizing t with
  | nil => simp [textAfter]
  | cons r rs ih =>
    rw [List.flatMap_cons, textAfter_append, ih, textAfter_record, List.filterMap_cons, List.append_assoc]
    cases r.body.text <;> rfl

end Seen

/-- How a reading ends with or without a fault. -/
def RecordFault.ending : Option RecordFault → Except Error Unit
  | none => .ok ()
  | some fault => .error (.record fault)

/-- The records of a level in the order of their headers, and the fault that ends the level. -/
structure Listing where
  seen : List Seen := []
  fault : Option RecordFault := none

namespace Listing

/-- Nothing but a fault. -/
def broken (fault : RecordFault) : Listing := ⟨[], some fault⟩

/-- A record that holds records, and those it holds. -/
def container (header : RecordHeader) (offset depth : Nat) (inside : Listing) : Listing :=
  ⟨{ header, offset, depth } :: inside.seen, inside.fault⟩

/-- An atom, which may be too short for its fields. -/
def atom (header : RecordHeader) (offset depth : Nat) (body : Bytes) : Listing :=
  ⟨[.atom header offset depth body], (Seen.atom header offset depth body).body.fault⟩

/-- A listing, and behind it another unless the first ended in a fault. -/
def followedBy (l m : Listing) : Listing :=
  match l.fault with
  | none => ⟨l.seen ++ m.seen, m.fault⟩
  | some _ => l

/-- What a reading does for a listing. -/
def script (logged : Bool) (l : Listing) : Script Unit :=
  ⟨l.seen.flatMap (Seen.steps logged), RecordFault.ending l.fault⟩

theorem mem_followedBy {r : Seen} {l m : Listing} (h : r ∈ (l.followedBy m).seen) : r ∈ l.seen ∨ r ∈ m.seen := by
  obtain ⟨seen, _ | fault⟩ := l
  · exact List.mem_append.1 h
  · exact .inl h

theorem fault_followedBy {l m : Listing} (h : (l.followedBy m).fault = none) : l.fault = none ∧ m.fault = none := by
  obtain ⟨seen, _ | fault⟩ := l
  · exact ⟨rfl, h⟩
  · cases h

theorem script_followedBy (logged : Bool) (l m : Listing) :
    (l.followedBy m).script logged = l.script logged >>= fun _ => m.script logged := by
  obtain ⟨seen, _ | fault⟩ := l <;> simp [followedBy, script, RecordFault.ending, Script.bind_def]

theorem script_container (logged : Bool) (header : RecordHeader) (offset depth : Nat) (inside : Listing) :
    (container header offset depth inside).script logged =
      Script.ofSteps (Seen.headerSteps logged { header, offset, depth }) >>= fun _ => inside.script logged := by
  simp [container, script, Script.ofSteps_bind, Seen.steps, AtomReading.steps, Step.lines]

theorem script_atom (logged : Bool) (header : RecordHeader) (offset depth : Nat) (body : Bytes) :
    (atom header offset depth body).script logged =
      Script.ofSteps (Seen.headerSteps logged { header, offset, depth }) >>= fun _ =>
        let a := AtomReading.ofBody header body (depth + 1)
        ⟨a.steps, RecordFault.ending a.fault⟩ := by
  simp only [atom, script, List.flatMap_cons, List.flatMap_nil, List.append_nil, Script.ofSteps_bind]
  rfl

end Listing

namespace RecordStream

/-- The records from `start` to `stop` that lie inside `depth` others. -/
def listLevel (bytes : Bytes) (start stop depth : Nat) : Listing :=
  if maxDepth < depth then .broken (.tooDeep start)
  else if start < stop then
    if stop - start < RecordHeader.size then .broken (.trailingBytes (stop - start) start)
    else
      match RecordHeader.readAt? bytes start with
      | none => .broken (.unreadableHeader start)
      | some header =>
        let body := start + RecordHeader.size
        let next := body + header.length.toNat
        if next ≤ stop then
          .followedBy
            (if header.isContainer then .container header start depth (listLevel bytes body next (depth + 1))
              else .atom header start depth (bytes.extract body next))
            (listLevel bytes next stop depth)
        else .broken (.overrun header.type start header.length (stop - body))
  else {}
termination_by stop - start
decreasing_by
  all_goals
    have : body = start + 8 := rfl
    omega

/-- All records of a stream. -/
def list (bytes : Bytes) : Listing := listLevel bytes 0 bytes.size 0

theorem run_headerSteps (logged : Bool) (header : RecordHeader) (offset depth : Nat) :
    (Script.ofSteps (Seen.headerSteps logged { header, offset, depth })).run =
      showHeader logged header offset depth := by
  have line := Script.run_line (Seen.line { header, offset, depth })
  rw [Script.lines, Script.run_ofSteps] at line
  rw [Script.run_ofSteps, Seen.headerSteps, play_append, line, showHeader]
  cases logged with
  | true => simp [play, Step.run, Seen.event, Seen.line]
  | false => simp [play, Seen.line]

theorem run_ending (fault : Option RecordFault) :
    (⟨[], RecordFault.ending fault⟩ : Script Unit).run =
      match fault with
      | none => pure ()
      | some fault => throw (.record fault) := by
  cases fault <;> rfl

theorem run_atomSteps (a : AtomReading) :
    (⟨a.steps, RecordFault.ending a.fault⟩ : Script Unit).run = showAtom a := by
  obtain ⟨lines, _ | t, fault⟩ := a
  · have split : (⟨AtomReading.steps ⟨lines, none, fault⟩, RecordFault.ending fault⟩ : Script Unit) =
        Script.lines lines >>= fun _ => ⟨[], RecordFault.ending fault⟩ := by
      simp [AtomReading.steps, Script.lines, Script.ofSteps_bind]
    rw [split, Script.run_bind, Script.run_lines, run_ending]
    cases fault <;> rfl
  · have split : (⟨AtomReading.steps ⟨lines, some t, fault⟩, RecordFault.ending fault⟩ : Script Unit) =
        Script.lines lines >>= fun _ =>
          Script.ofSteps [.note (.textKept t.utf8ByteSize), .keep t] >>= fun _ => ⟨[], RecordFault.ending fault⟩ := by
      simp [AtomReading.steps, Script.lines, Script.ofSteps_bind]
    rw [split, Script.run_bind, Script.run_lines]
    simp only [Script.run_bind, Script.run_keepText, run_ending]
    cases fault <;> rfl

/-- Reading a level is to show what it lists. -/
theorem readLevel_eq (logged : Bool) (bytes : Bytes) (start stop depth : Nat) :
    readLevel logged bytes start stop depth = ((listLevel bytes start stop depth).script logged).run := by
  fun_induction listLevel bytes start stop depth with
  | case1 start stop depth deep =>
    rw [readLevel, if_pos deep]
    rfl
  | case2 start stop depth shallow more short =>
    rw [readLevel, if_neg shallow, if_pos more, if_pos short]
    rfl
  | case3 start stop depth shallow more long unreadable =>
    rw [readLevel, if_neg shallow, if_pos more, if_neg long, unreadable]
    rfl
  | case4 start stop depth shallow more long header found body next fits inside later =>
    rw [readLevel, if_neg shallow, if_pos more, if_neg long, found, Listing.script_followedBy, Script.run_bind, ← later]
    simp only [body, next] at fits
    simp only [if_pos fits]
    by_cases container : header.isContainer
    · simp only [if_pos container, Listing.script_container, Script.run_bind, run_headerSteps, ← inside, bind_assoc]
      rfl
    · simp only [if_neg container, Listing.script_atom, Script.run_bind, run_headerSteps, run_atomSteps, bind_assoc]
      rfl
  | case5 start stop depth shallow more long header found body next exceeds =>
    rw [readLevel, if_neg shallow, if_pos more, if_neg long, found]
    simp only [body, next] at exceeds
    simp only [if_neg exceeds]
    rfl
  | case6 start stop depth shallow done =>
    rw [readLevel, if_neg shallow, if_neg done]
    rfl

/-- Reading a stream is to show its records. -/
theorem read_eq (logged : Bool) (bytes : Bytes) : read logged bytes = ((list bytes).script logged).run :=
  readLevel_eq logged bytes 0 bytes.size 0

end RecordStream

end DeckDump
