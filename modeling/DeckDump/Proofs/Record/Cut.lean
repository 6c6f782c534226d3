import DeckDump.Proofs.Record.Atom
import DeckDump.Proofs.Record.Listing
import DeckDump.Proofs.Sink

/-!
# Readings that a sink cuts short

When the sink of a reading fails, the text kept is that of the records whose lines are all on the
sink (`textAfter_fitting`, `fragments_read`): a text atom's line is the last of its record, and its
text is kept right behind it (`lines_of_text`). What the sink holds are the first bytes of what is
shown (`prefixLaw_read`), and a reading that ends in a fault ends in that of its listing
(`fault_of_read`).
-/

namespace DeckDump

namespace Seen

/-- How many bytes are shown up to the end of record number `i`. -/
def endOf (rs : List Seen) (i : Nat) : Nat := (shownLines ((rs.take (i + 1)).flatMap lines)).size

/-- The text of the records that end within the first `n` bytes shown. -/
def textsWithin (n : Nat) (rs : List Seen) : List String :=
  rs.zipIdx.filterMap fun (r, i) => if endOf rs i ≤ n then r.body.text else none

theorem endOf_cons_succ (r : Seen) (rs : List Seen) (i : Nat) :
    endOf (r :: rs) (i + 1) = (shownLines r.lines).size + endOf rs i := by
  rw [endOf, List.take_succ_cons, List.flatMap_cons, shownLines_append, ByteArray.size_append]
  rfl

theorem endOf_cons_zero (r : Seen) (rs : List Seen) : endOf (r :: rs) 0 = (shownLines r.lines).size := by
  simp [endOf]

theorem textsWithin_cons (n : Nat) (r : Seen) (rs : List Seen) :
    textsWithin n (r :: rs) =
      if (shownLines r.lines).size ≤ n then r.body.text.toList ++ textsWithin (n - (shownLines r.lines).size) rs
      else [] := by
  rw [textsWithin, List.zipIdx_cons, List.filterMap_cons, List.zipIdx_succ, List.filterMap_map]
  simp only [endOf_cons_zero]
  by_cases fits : (shownLines r.lines).size ≤ n
  · have later (i : Nat) : endOf (r :: rs) (i + 1) ≤ n ↔ endOf rs i ≤ n - (shownLines r.lines).size := by
      rw [endOf_cons_succ]
      omega
    simp only [if_pos fits, Function.comp_def, later, textsWithin]
    cases r.body.text <;> rfl
  · have later (i : Nat) : ¬ endOf (r :: rs) (i + 1) ≤ n := by
      rw [endOf_cons_succ]
      omega
    simp [if_neg fits, later]

/-- What a reading does up to the end of a record's lines. -/
def front (logged : Bool) (r : Seen) : List Step := r.headerSteps logged ++ Step.lines r.body.lines

theorem quiet_front (logged : Bool) (r : Seen) : ∀ x ∈ r.front logged, ∀ t, x.keptAfter t = t := by
  intro x hx t
  have written (ls : List String) (h : x ∈ Step.lines ls) : x.keptAfter t = t := by
    simp only [Step.lines, List.mem_flatMap, List.mem_cons, List.not_mem_nil, or_false] at h
    obtain ⟨l, -, rfl | rfl⟩ := h <;> rfl
  rw [front, headerSteps, List.mem_append, List.mem_append] at hx
  obtain (noted | header) | body := hx
  · split at noted
    · rw [List.mem_singleton.1 noted]
      rfl
    · cases noted
  · exact written _ header
  · exact written _ body

theorem output_front (logged : Bool) (r : Seen) : outputOf (r.front logged) = shownLines r.lines := by
  rw [← output_record logged, Seen.steps, AtomReading.steps, ← List.append_assoc, outputOf_append]
  cases r.body.text <;> simp [front, outputOf, Step.output]

/-- The text kept in front of the first write that does not fit. -/
theorem textAfter_fitting (logged : Bool) (n : Nat) (t : ExtractedText) (rs : List Seen) :
    (textAfter t (fitting n (rs.flatMap (Seen.steps logged)))).fragments.toList =
      t.fragments.toList ++ textsWithin n rs := by
  induction rs generalizing n t with
  | nil => simp [textsWithin, fitting, textAfter]
  | cons r rs ih =>
    rw [List.flatMap_cons, fitting_append, output_record, textsWithin_cons]
    by_cases fits : (shownLines r.lines).size ≤ n
    · rw [if_pos fits, if_pos fits, textAfter_append, ih, textAfter_record, List.append_assoc]
    · -- the failing write is one of the record's lines, in front of its text
      rw [if_neg fits, if_neg fits, List.append_nil, Seen.steps, AtomReading.steps, ← List.append_assoc]
      have exceeds : ¬ (outputOf (r.front logged)).size ≤ n := by rwa [output_front]
      rw [← front, fitting_append, if_neg exceeds, DeckDump.textAfter_fitting (quiet_front logged r)]

end Seen

namespace RecordStream

/-- Reading a record stream obeys the law of a failing sink. -/
theorem prefixLaw_read (logged : Bool) (b : Bytes) : PrefixLaw (read logged b) := by
  refine .of_script (fun _ => (list b).script logged) fun s => ?_
  rw [read_eq]
  exact ⟨rfl, rfl⟩

/-- A fault that ends a reading, on any sink, is the fault of the listing. -/
theorem fault_of_read {logged : Bool} {b : Bytes} {s : Session} {fault : RecordFault}
    (failed : (read logged b s).1 = .error (.record fault)) : (list b).fault = some fault := by
  obtain ⟨-, effect⟩ := play_effect ((list b).script logged).steps s
  rw [read_eq, Script.run_apply] at failed
  rcases taken : play ((list b).script logged).steps s with ⟨e | _, s'⟩ <;> rw [taken] at failed effect
  · -- a sink ends a reading in an error of its own
    cases effect.symm.trans (Except.error.inj failed)
  · cases listed : (list b).fault with
    | none =>
      rw [Listing.script, listed] at failed
      cases failed
    | some fault' =>
      rw [Listing.script, listed] at failed
      cases failed
      rfl

/-- A record that gives text shows two lines, of which the second has the words that it gives. -/
theorem lines_of_text {b : Bytes} {start stop depth : Nat} {r : Seen} (seen : r ∈ (listLevel b start stop depth).seen)
    {t : String} (text : r.body.text = some t) :
    ∃ words, t = words ++ "\n" ∧ r.lines = [r.line, Atom.labelled (r.depth + 1) "text" (Atom.quoted words)] := by
  fun_induction listLevel b start stop depth with
  | case1 | case2 | case3 | case5 | case6 => simp [Listing.broken] at seen
  | case4 start stop depth shallow more long header found body next fits inside later =>
    obtain first | behind := Listing.mem_followedBy seen
    · split at first
      · obtain rfl | child := List.mem_cons.1 first
        · cases text
        · exact inside child
      · rw [List.mem_singleton.1 first] at text ⊢
        obtain ⟨words, rfl, lines⟩ := AtomReading.lines_of_text text
        exact ⟨words, rfl, congrArg (_ :: ·) lines⟩
    · exact later behind

/-- The text that a reading keeps on a sink with room for `n` bytes. -/
theorem fragments_read (logged : Bool) (b : Bytes) {s : Session} (open_ : s.sink.muted = false) (glitch : Bool)
    (n : Nat) :
    (read logged b (s.withCapacity (.room glitch n))).2.text.fragments.toList =
      s.text.fragments.toList ++ Seen.textsWithin n (list b).seen := by
  rw [read_eq, Script.run_apply, ← Seen.textAfter_fitting logged n s.text]
  by_cases fits : (outputOf ((list b).script logged).steps).size ≤ n
  · rw [play_fitting _ open_ glitch fits]
    simp only [Listing.script] at fits ⊢
    rw [fitting_of_le fits]
    rfl
  · rw [play_cut _ open_ glitch (Nat.lt_of_not_le fits)]
    rfl

end RecordStream

end DeckDump
