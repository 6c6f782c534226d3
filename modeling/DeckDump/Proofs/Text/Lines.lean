import DeckDump.Proofs.Sink
import DeckDump.Proofs.Text.Controls

/-!
# Lines

What is shown is read line by line, so a text must not contain more lines than were meant. A reader
sees lines by the line feeds alone (`linesOf`), whatever the lines were when they were written
(`lineText`):

* `controls_lineText`: the controls of lines are their own and one line feed behind each;
* `cleanLines_lineText_iff`: as many clean lines are seen as were written iff none has a control;
* `linesOf_lineText`: then a reader sees the lines that were written;
* `Clean`: lines without controls and how many there are, with one rule for each way of putting lines together;
* `Report.ShowsText`: what a report shows on every sink that never fails.
-/

namespace DeckDump

namespace Text

/-- Lines as one text, each with its line feed. -/
def lineText (ls : List String) : String := String.join (ls.map (· ++ "\n"))

/-- The lines of a text: what stands in front of each of its line feeds. -/
def linesOf (text : String) : List String := (text.toList.splitOn '\n').dropLast.map String.ofList

/-- Whether a text is `n` whole lines without control characters in them. -/
structure CleanLines (n : Nat) (text : String) : Prop where
  lineFeeds : text.toList.count '\n' = n
  /-- Nothing stands behind the last line feed. -/
  whole : text = "" ∨ text.toList.getLast? = some '\n'
  clean : ∀ c ∈ text.toList, isControl c = true → c = '\n'

theorem lineText_cons (l : String) (ls : List String) : lineText (l :: ls) = l ++ "\n" ++ lineText ls := by
  simp [lineText]

theorem lineText_append (ls ms : List String) : lineText (ls ++ ms) = lineText ls ++ lineText ms := by
  simp [lineText]

theorem lineText_whole (ls : List String) : lineText ls = "" ∨ (lineText ls).toList.getLast? = some '\n' := by
  cases reversed : ls.reverse with
  | nil => exact .inl (by rw [List.reverse_eq_nil_iff.1 reversed]; rfl)
  | cons l front =>
    rw [List.reverse_eq_cons_iff.1 reversed, lineText_append, lineText_cons]
    exact .inr (by simp [lineText])

theorem controls_lineText (ls : List String) : controls (lineText ls) = ls.flatMap fun l => controls l ++ ['\n'] := by
  induction ls with
  | nil => rfl
  | cons l ls ih => rw [lineText_cons, controls_append, controls_append, ih, List.flatMap_cons]; rfl

/-- Lines that are clean are those whose controls are their line feeds. -/
theorem cleanLines_iff (n : Nat) (text : String) :
    CleanLines n text ↔ controls text = List.replicate n '\n' ∧ (text = "" ∨ text.toList.getLast? = some '\n') := by
  have counted : (controls text).count '\n' = text.toList.count '\n' := List.count_filter rfl
  constructor
  · rintro ⟨lineFeeds, whole, clean⟩
    refine ⟨List.eq_replicate_iff.2 ⟨?_, ?_⟩, whole⟩
    · rw [← lineFeeds, ← counted, eq_comm, List.count_eq_length]
      intro c mem
      exact (clean c (List.mem_filter.1 mem).1 (List.mem_filter.1 mem).2).symm
    · intro c mem
      exact clean c (List.mem_filter.1 mem).1 (List.mem_filter.1 mem).2
  · rintro ⟨feeds, whole⟩
    refine ⟨?_, whole, fun c mem control => ?_⟩
    · rw [← counted, feeds, List.count_replicate_self]
    · have among : c ∈ controls text := List.mem_filter.2 ⟨mem, control⟩
      rw [feeds] at among
      exact List.eq_of_mem_replicate among

/-- A line with controls of its own adds to the line feeds that the lines need. -/
theorem controls_lineText_eq_replicate_iff (ls : List String) :
    controls (lineText ls) = List.replicate ls.length '\n' ↔ ∀ l ∈ ls, controls l = [] := by
  have long (ls : List String) : ls.length ≤ (controls (lineText ls)).length := by
    induction ls with
    | nil => exact Nat.zero_le _
    | cons l ls ih =>
      rw [controls_lineText] at ih ⊢
      simp only [List.flatMap_cons, List.length_append, List.length_cons, List.length_nil]
      omega
  induction ls with
  | nil => simp [controls_lineText]
  | cons l ls ih =>
    have split : controls (lineText (l :: ls)) = controls l ++ '\n' :: controls (lineText ls) := by
      rw [controls_lineText, List.flatMap_cons, List.append_assoc, ← controls_lineText]
      rfl
    rw [split, List.forall_mem_cons, List.length_cons, List.replicate_succ]
    constructor
    · intro feeds
      -- the other lines need one line feed each, so there is room for no control of this one
      have none : controls l = [] := by
        have lengths := congrArg List.length feeds
        have rest := long ls
        simp only [List.length_append, List.length_cons, List.length_replicate] at lengths
        exact List.eq_nil_of_length_eq_zero (by omega)
      rw [none, List.nil_append] at feeds
      exact ⟨none, ih.1 (List.cons.inj feeds).2⟩
    · rintro ⟨none, rest⟩
      rw [none, ih.2 rest, List.nil_append]

theorem controls_lineText_of_clean {ls : List String} (h : ∀ l ∈ ls, controls l = []) :
    controls (lineText ls) = List.replicate ls.length '\n' :=
  (controls_lineText_eq_replicate_iff ls).2 h

/-- As many clean lines are seen as were written iff no line has a control character. -/
theorem cleanLines_lineText_iff (ls : List String) :
    CleanLines ls.length (lineText ls) ↔ ∀ l ∈ ls, controls l = [] := by
  rw [cleanLines_iff, controls_lineText_eq_replicate_iff]
  exact and_iff_left (lineText_whole ls)

theorem not_mem_of_controls {l : String} (h : controls l = []) : '\n' ∉ l.toList := by
  intro mem
  have visible := (controls_eq_nil_iff l).1 h _ mem
  cases visible

/-- A reader sees the lines that were written. -/
theorem linesOf_lineText {ls : List String} (h : ∀ l ∈ ls, controls l = []) : linesOf (lineText ls) = ls := by
  have split : (lineText ls).toList.splitOn '\n' = ls.map String.toList ++ [[]] := by
    induction ls with
    | nil => rfl
    | cons l ls ih =>
      rw [List.forall_mem_cons] at h
      have line : (lineText (l :: ls)).toList = l.toList ++ '\n' :: (lineText ls).toList := by
        simp [lineText_cons]
      rw [line, List.splitOn_append_cons_self_of_not_mem (not_mem_of_controls h.1), ih h.2]
      rfl
  rw [linesOf, split, List.dropLast_concat, List.map_map]
  exact (List.map_congr_left fun l _ => String.ofList_toList).trans (List.map_id ls)

/-- How many lines parts have together that have so many each. -/
def total (counts : List Nat) : Nat := counts.foldr (· + ·) 0

theorem length_flatMap {α : Type} (part : α → List String) (as : List α) :
    (as.flatMap part).length = total (as.map fun a => (part a).length) := by
  induction as with
  | nil => rfl
  | cons a as ih => rw [List.flatMap_cons, List.length_append, ih]; rfl

/-- Lines without control characters, and how many there are. -/
structure Clean (n : Nat) (ls : List String) : Prop where
  length : ls.length = n
  clean : ∀ l ∈ ls, controls l = []

namespace Clean

variable {m n : Nat} {ls ms : List String}

theorem nil : Clean 0 [] := ⟨rfl, nofun⟩

theorem single {l : String} (h : controls l = []) : Clean 1 [l] := ⟨rfl, fun _ mem => List.mem_singleton.1 mem ▸ h⟩

theorem append (first : Clean m ls) (next : Clean n ms) : Clean (m + n) (ls ++ ms) where
  length := by rw [List.length_append, first.length, next.length]
  clean l mem := (List.mem_append.1 mem).elim (first.clean l) (next.clean l)

theorem flatMap {α : Type} {count : α → Nat} {part : α → List String} {as : List α}
    (h : ∀ a ∈ as, Clean (count a) (part a)) : Clean (total (as.map count)) (as.flatMap part) := by
  induction as with
  | nil => exact .nil
  | cons a as ih =>
    rw [List.forall_mem_cons] at h
    exact h.1.append (ih h.2)

/-- Written one behind the other, such lines are seen as they were. -/
theorem lineText (h : Clean n ls) : CleanLines n (Text.lineText ls) :=
  h.length ▸ (cleanLines_lineText_iff ls).2 h.clean

end Clean

end Text

/-- Whether a report shows a text on every sink that never fails. -/
def Report.ShowsText (r : Report Unit) (text : String) : Prop :=
  ∀ s : Session, s.sink.NeverFails → (r s).2.sink.written = s.sink.written ++ s.sink.shows text.toUTF8

/-- The bytes of lines are those of their text. -/
theorem shownLines_eq (ls : List String) : shownLines ls = (Text.lineText ls).toUTF8 := rfl

/-- What the run of a script shows. -/
theorem Script.showsText {m : Script Unit} {ls : List String} (h : outputOf m.steps = shownLines ls) :
    m.run.ShowsText (Text.lineText ls) := by
  intro s free
  rw [Script.run_of_neverFails _ free, ← shownLines_eq, ← h]
  rfl

/-- Lines change nothing but what the sink holds. -/
theorem Report.lines_of_neverFails (ls : List String) {s : Session} (free : s.sink.NeverFails) :
    Report.lines ls s = (.ok (), { s with sink := { s.sink with
      written := s.sink.written ++ s.sink.shows (Text.lineText ls).toUTF8 } }) := by
  rw [← Script.run_lines, Script.run_of_neverFails _ free]
  simp only [Script.lines, Script.ofSteps, Session.after, output_lines, noted_lines, textAfter_lines, shownLines_eq]
  simp

theorem Report.showsText_lines (ls : List String) : (Report.lines ls).ShowsText (Text.lineText ls) := by
  intro s free
  rw [lines_of_neverFails ls free]

end DeckDump
