import DeckDump.Proofs.Kept
import DeckDump.PropertySet.Stream

/-!
# The scripts of property sets

Reading a property set stream takes steps that its bytes alone decide: the header, and then each
section up to the first that does not fit:

* `run_script`: reading a stream is the run of its script;
* `Proper`: what scripts of property sets may fail for and note, and how it is put together;
* `script_induction`: what holds of every stream's script because it holds of its parts;
* `proper_script`: the script of every stream is proper;
* `tells_script`: it only writes and notes, so it keeps no text.
-/

namespace DeckDump.PropertySet

/-- What showing a section does. -/
def Section.script (set : Guid) (s : Section) : Script Unit := do
  Script.lines s.sizeLines
  if maxListed < s.count then Script.ofSteps [.note (.longSection s.count maxListed)]
  Script.lines (s.properties.map (Property.line set))

/-- What showing `count` sections from number `i` on does. -/
def sectionsScript (b : Bytes) : (count i : Nat) → Script Unit
  | 0, _ => pure ()
  | count + 1, i => do
    Script.lines (placeLines i (placeAt b i))
    match Section.readAt b (placeAt b i).offset with
    | .error fault => Script.fail (.propertySet fault)
    | .ok s => s.script (placeAt b i).set
    sectionsScript b count (i + 1)

/-- What reading a property set stream does. -/
def script (b : Bytes) : Script Unit :=
  let mark := (b.u16At? 0).getD 0
  let count := ((b.u32At? 24).getD 0).toNat
  let stop := headerSize + count * placeSize
  if b.size < headerSize then Script.fail (.propertySet (.tooShort b.size))
  else if mark ≠ 0xFFFE then Script.fail (.propertySet (.byteOrder mark))
  else do
    Script.lines (headerLines b)
    if stop ≤ b.size then do
      Script.ofSteps [.note (.sectionTable stop)]
      sectionsScript b count 0
    else Script.fail (.propertySet (.sectionTable count))

theorem Section.run_script (set : Guid) (s : Section) : (s.script set).run = s.show set := by
  rw [Section.script, Section.show, Script.run_bind, Script.run_lines]
  by_cases long : maxListed < s.count
  · simp only [if_pos long, Script.run_bind, Script.run_note, Script.run_lines]
  · simp only [if_neg long, Script.run_lines]

theorem run_sectionsScript (b : Bytes) (count i : Nat) : (sectionsScript b count i).run = readSections b count i := by
  induction count generalizing i with
  | zero => rfl
  | succ count ih =>
    rw [sectionsScript, readSections, Script.run_bind, Script.run_lines]
    cases Section.readAt b (placeAt b i).offset with
    | error fault => simp only [Script.run_bind, Script.run_throw, ih]
    | ok s => simp only [Script.run_bind, Section.run_script, ih]

/-- Reading a property set stream is the run of its script. -/
theorem run_script (b : Bytes) : (script b).run = read b := by
  rw [script, read]
  by_cases short : b.size < headerSize
  · rw [if_pos short, if_pos short, Script.run_throw]
  rw [if_neg short, if_neg short]
  by_cases mark : (b.u16At? 0).getD 0 ≠ 0xFFFE
  · rw [if_pos mark, if_pos mark, Script.run_throw]
  rw [if_neg mark, if_neg mark, Script.run_bind, Script.run_lines]
  by_cases fits : headerSize + ((b.u32At? 24).getD 0).toNat * placeSize ≤ b.size
  · simp only [if_pos fits, Script.run_bind, Script.run_note, run_sectionsScript]
  · simp only [if_neg fits, Script.run_throw]

/-- The events of property sets. -/
def IsNote (e : Event) : Prop :=
  (∃ stop, e = .sectionTable stop) ∨ ∃ properties shown, e = .longSection properties shown

/-- Whether a script fails for faults of property sets alone, and notes only their events. -/
structure Proper {α : Type} (x : Script α) : Prop where
  fails : ∀ e, x.result = .error e → ∃ fault, e = .propertySet fault
  noted : ∀ e ∈ notedBy x.steps, IsNote e

namespace Proper

theorem pure : Proper (Pure.pure () : Script Unit) where
  fails _ failed := by cases failed
  noted _ he := by cases he

theorem fail (fault : PropertySetFault) : Proper (Script.fail (.propertySet fault) : Script Unit) where
  fails _ failed := by
    cases failed
    exact ⟨fault, rfl⟩
  noted _ he := by cases he

theorem lines (ls : List String) : Proper (Script.lines ls) where
  fails _ failed := by cases failed
  noted e he := by
    rw [Script.lines, Script.ofSteps, noted_lines] at he
    cases he

theorem note {e : Event} (h : IsNote e) : Proper (Script.ofSteps [.note e]) where
  fails _ failed := by cases failed
  noted e' he' := by
    rw [show e' = e from List.mem_singleton.1 he']
    exact h

theorem bind {α β : Type} {x : Script α} {f : α → Script β} (first : Proper x) (next : ∀ a, Proper (f a)) :
    Proper (x >>= f) := by
  obtain ⟨xs, e | a⟩ := x
  · refine ⟨fun e' failed => ?_, first.noted⟩
    cases failed
    exact first.fails e rfl
  · refine ⟨(next a).fails, fun e he => ?_⟩
    rw [Script.bind_def, notedBy_append, List.mem_append] at he
    exact he.elim (first.noted e) ((next a).noted e)

end Proper

/-- What holds of lines, of notes and of faults, and is kept where one script is put behind another, holds of the
script of every stream. -/
theorem script_induction {P : Script Unit → Prop} (pure : P (Pure.pure ())) (lines : ∀ ls, P (Script.lines ls))
    (note : ∀ e, IsNote e → P (Script.ofSteps [.note e])) (fail : ∀ fault, P (Script.fail (.propertySet fault)))
    (bind : ∀ {x : Script Unit} {f : Unit → Script Unit}, P x → (∀ u, P (f u)) → P (x >>= f)) (b : Bytes) :
    P (script b) := by
  have onSection (set : Guid) (s : Section) : P (s.script set) := by
    refine bind (lines _) fun _ => ?_
    split
    · exact bind (note _ (.inr ⟨_, _, rfl⟩)) fun _ => lines _
    · exact lines _
  have sections (count i : Nat) : P (sectionsScript b count i) := by
    induction count generalizing i with
    | zero => exact pure
    | succ count ih =>
      refine bind (lines _) fun _ => ?_
      cases Section.readAt b (placeAt b i).offset with
      | error fault => exact bind (fail fault) fun _ => ih (i + 1)
      | ok s => exact bind (onSection _ s) fun _ => ih (i + 1)
  rw [script]
  split
  · exact fail _
  split
  · exact fail _
  refine bind (lines _) fun _ => ?_
  split
  · exact bind (note _ (.inl ⟨_, rfl⟩)) fun _ => sections _ 0
  · exact fail _

/-- Property sets fail for faults of their own alone, and note only events of their own. -/
theorem proper_script (b : Bytes) : Proper (script b) := script_induction .pure .lines (fun _ => .note) .fail .bind b

/-- Reading a property set keeps no text. -/
theorem tells_script (b : Bytes) : (script b).Tells :=
  script_induction (.pure ()) .lines (fun e _ => .note e) (fun _ => .fail _) .bind b

end DeckDump.PropertySet
