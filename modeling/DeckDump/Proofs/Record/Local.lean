import DeckDump.Proofs.Record.Forest

/-!
# Records are read locally

A level is read from its own bytes alone: records behind each other are read one after the other,
and the same bytes elsewhere hold the same records, with their offsets moved along:

* `Seen.shift`, `RecordFault.shift`, `Listing.shift`: what was met in a level, a number of places on;
* `listLevel_split`: a level whose first part has no fault lists that part and then the rest;
* `listLevel_shift`: the same bytes at another place list the same records there;
* `seen_listLevel_prefix`: a level that is cut short lists the first of its records;
* `readLevel_local`: what this means for what a reading shows, keeps and ends with.
-/

namespace DeckDump

/-- What a report does on every sink that never fails: what it shows, what it keeps, and how it ends. -/
def Report.Yields (r : Report Unit) (output : ByteArray) (texts : List String) (result : Except Error Unit) : Prop :=
  ∀ s : Session, s.sink.NeverFails →
    (r s).1 = result ∧ (r s).2.sink.written = s.sink.written ++ s.sink.shows output ∧
      (r s).2.text.fragments.toList = s.text.fragments.toList ++ texts

/-- A header that stands in front of the end is the same in the same bytes. -/
theorem RecordHeader.readAt?_shift {b b' : Bytes} {start stop d : Nat}
    (same : b'.extract (start + d) (stop + d) = b.extract start stop) (long : ¬ stop - start < size)
    (more : start < stop) : readAt? b' (start + d) = readAt? b start := by
  have fits : start + size ≤ stop := by omega
  have bytes := Bytes.extract_congr same (Nat.le_refl start) (Nat.le_add_right start size) fits
  rw [Nat.add_right_comm] at bytes
  refine Option.ext fun header => ?_
  rw [readAt?_eq_some_iff, readAt?_eq_some_iff, bytes]

/-! ## Moving what was met -/

/-- The fault, met `d` places further on in its stream. The offset of a field is one in its atom. -/
def RecordFault.shift (d : Nat) : RecordFault → RecordFault
  | .tooDeep offset => .tooDeep (offset + d)
  | .trailingBytes count offset => .trailingBytes count (offset + d)
  | .unreadableHeader offset => .unreadableHeader (offset + d)
  | .overrun type offset claimed remaining => .overrun type (offset + d) claimed remaining
  | .fieldTooShort type size wanted offset => .fieldTooShort type size wanted offset

theorem RecordFault.shift_zero (fault : RecordFault) : fault.shift 0 = fault := by
  cases fault <;> rfl

/-- The record, met `d` places further on in its stream. -/
def Seen.shift (d : Nat) (r : Seen) : Seen := { r with offset := r.offset + d }

namespace Atom

theorem shift_fault_readForms {header : RecordHeader} {body : Bytes} {offset : Nat} {forms : List Form}
    {fault : RecordFault} (h : readForms header body offset forms = .error fault) (d : Nat) :
    fault.shift d = fault := by
  induction forms generalizing offset with
  | nil => cases h
  | cons f rest ih =>
    rw [readForms] at h
    split at h
    · cases h
      rfl
    · cases later : readForms header body (offset + f.width) rest with
      | error fault' =>
        rw [later] at h
        cases h
        exact ih later
      | ok read =>
        rw [later] at h
        cases h

theorem shift_fault_readLayout (header : RecordHeader) (body : Bytes) (depth offset : Nat) (layout : Layout) (d : Nat) :
    (readLayout header body depth offset layout).fault.map (RecordFault.shift d) =
      (readLayout header body depth offset layout).fault := by
  induction layout generalizing offset with
  | nil => rfl
  | cons rows rest ih =>
    rw [readLayout]
    split
    · next fault failed => exact congrArg some (shift_fault_readForms failed d)
    · exact ih _

end Atom

theorem CurrentUser.shift_fault_read {header : RecordHeader} {body : Bytes} {fault : RecordFault}
    (h : read header body = .error fault) (d : Nat) : fault.shift d = fault := by
  simp only [read, need_bind] at h
  repeat' split at h
  all_goals cases h
  all_goals rfl

namespace AtomReading

/-- Whether an atom is too short, and for which field, does not depend on where it stands. -/
theorem shift_fault_ofBody (header : RecordHeader) (body : Bytes) (depth d : Nat) :
    (ofBody header body depth).fault.map (RecordFault.shift d) = (ofBody header body depth).fault := by
  simp only [ofBody]
  split
  · rw [fault_readText]
    rfl
  split
  · rw [fault_readText]
    rfl
  split
  · rfl
  split
  · rw [CurrentUser.reading]
    split
    · next fault failed => exact congrArg some (CurrentUser.shift_fault_read failed d)
    · rfl
  split
  · exact Atom.shift_fault_readLayout header body depth 0 _ d
  · rfl

end AtomReading

namespace Listing

/-- The listing of a level `d` places further on in its stream. -/
def shift (d : Nat) (l : Listing) : Listing := ⟨l.seen.map (Seen.shift d), l.fault.map (RecordFault.shift d)⟩

theorem shift_zero (l : Listing) : l.shift 0 = l := by
  have seen : l.seen.map (Seen.shift 0) = l.seen := List.map_id _
  have fault : l.fault.map (RecordFault.shift 0) = l.fault := by
    cases l.fault with
    | none => rfl
    | some fault => exact congrArg some fault.shift_zero
  rw [shift, seen, fault]

theorem shift_followedBy (d : Nat) (l m : Listing) : (l.followedBy m).shift d = (l.shift d).followedBy (m.shift d) := by
  obtain ⟨seen, _ | fault⟩ := l
  · simp only [followedBy, shift, List.map_append, Option.map_none]
  · rfl

theorem shift_container (d : Nat) (header : RecordHeader) (offset depth : Nat) (inside : Listing) :
    (container header offset depth inside).shift d = container header (offset + d) depth (inside.shift d) := rfl

theorem shift_atom (d : Nat) (header : RecordHeader) (offset depth : Nat) (body : Bytes) :
    (atom header offset depth body).shift d = atom header (offset + d) depth body := by
  have fault := AtomReading.shift_fault_ofBody header body (depth + 1) d
  simp only [shift, atom, List.map_cons, List.map_nil]
  rw [Seen.atom, fault]
  rfl

theorem nil_followedBy (m : Listing) : followedBy {} m = m := rfl

theorem followedBy_assoc (l m n : Listing) : (l.followedBy m).followedBy n = l.followedBy (m.followedBy n) := by
  obtain ⟨seen, _ | fault⟩ := l
  · obtain ⟨seen', _ | fault'⟩ := m
    · simp only [followedBy, List.append_assoc]
    · rfl
  · rfl

theorem followedBy_of_whole {l : Listing} (whole : l.fault = none) (m : Listing) :
    l.followedBy m = ⟨l.seen ++ m.seen, m.fault⟩ := by
  rw [followedBy, whole]

/-- What is met behind a listing does not change what was met in it. -/
theorem seen_followedBy_prefix (l : Listing) {m n : Listing} (h : m.seen <+: n.seen) :
    (l.followedBy m).seen <+: (l.followedBy n).seen := by
  obtain ⟨seen, _ | fault⟩ := l
  · exact (List.prefix_append_right_inj seen).2 h
  · exact List.prefix_rfl

end Listing

namespace RecordStream

/-! ## Levels of the same bytes -/

/-- A level whose first part has no fault lists that part, and then the rest as a level of its own. -/
theorem listLevel_split {b : Bytes} {start mid stop depth : Nat} (ordered : start ≤ mid) (inside : mid ≤ stop)
    (whole : (listLevel b start mid depth).fault = none) :
    listLevel b start stop depth = (listLevel b start mid depth).followedBy (listLevel b mid stop depth) := by
  fun_induction listLevel b start mid depth with
  | case1 | case2 | case3 | case5 => cases whole
  | case4 start mid depth shallow more long header found body next fits _ later =>
    obtain ⟨-, rest⟩ := Listing.fault_followedBy whole
    rw [listLevel_record (Nat.not_lt.1 shallow) found (Nat.le_trans fits inside), Listing.followedBy_assoc]
    exact congrArg _ (later fits inside rest)
  | case6 start mid depth shallow done =>
    rw [Nat.le_antisymm ordered (Nat.not_lt.1 done), Listing.nil_followedBy]

/-- The same bytes at another place are a level with the same records there. -/
theorem listLevel_shift {b b' : Bytes} {start stop d : Nat} (depth : Nat)
    (same : b'.extract (start + d) (stop + d) = b.extract start stop) :
    listLevel b' (start + d) (stop + d) depth = (listLevel b start stop depth).shift d := by
  fun_induction listLevel b start stop depth with
  | case1 start stop depth deep =>
    rw [listLevel, if_pos deep]
    rfl
  | case2 start stop depth shallow more short =>
    rw [listLevel, if_neg shallow, if_pos (by omega), Nat.add_sub_add_right, if_pos short]
    rfl
  | case3 start stop depth shallow more long unreadable =>
    have moved := RecordHeader.readAt?_shift same long more
    rw [listLevel, if_neg shallow, if_pos (by omega), Nat.add_sub_add_right, if_neg long, moved, unreadable]
    rfl
  | case4 start stop depth shallow more long header found body next fits inside later =>
    have before : start ≤ body := Nat.le_add_right _ _
    have within : body ≤ next := Nat.le_add_right _ _
    have moved := (RecordHeader.readAt?_shift same long more).trans found
    have bodies := Bytes.extract_congr same before within fits
    have rest := Bytes.extract_congr same (Nat.le_trans before within) fits (Nat.le_refl stop)
    have body_moved : start + d + 8 = body + d := Nat.add_right_comm start d 8
    have next_moved : body + d + header.length.toNat = next + d := Nat.add_right_comm body d _
    rw [listLevel_record (Nat.not_lt.1 shallow) moved (by omega), body_moved, next_moved, later rest,
      bodies, inside bodies, Listing.shift_followedBy]
    by_cases container : header.isContainer
    · rw [if_pos container, if_pos container, Listing.shift_container]
    · rw [if_neg container, if_neg container, Listing.shift_atom]
  | case5 start stop depth shallow more long header found body next exceeds =>
    have moved := (RecordHeader.readAt?_shift same long more).trans found
    have exceeds_moved : ¬ start + d + RecordHeader.size + header.length.toNat ≤ stop + d := by omega
    have remaining : stop + d - (start + d + RecordHeader.size) = stop - body := by omega
    rw [listLevel, if_neg shallow, if_pos (by omega), Nat.add_sub_add_right, if_neg long, moved]
    simp only [if_neg exceeds_moved, remaining]
    rfl
  | case6 start stop depth shallow done =>
    rw [listLevel, if_neg shallow, if_neg (by omega)]
    rfl

/-- A level that is cut short lists the first of its records. -/
theorem seen_listLevel_prefix (b : Bytes) {start stop stop' : Nat} (depth : Nat) (h : stop ≤ stop') :
    (listLevel b start stop depth).seen <+: (listLevel b start stop' depth).seen := by
  fun_induction listLevel b start stop depth with
  | case1 | case2 | case3 | case5 | case6 => exact List.nil_prefix
  | case4 start stop depth shallow more long header found body next fits _ later =>
    rw [listLevel_record (Nat.not_lt.1 shallow) found (Nat.le_trans fits h)]
    exact Listing.seen_followedBy_prefix _ (later h)

/-- A stream that is cut short is a level of the whole stream. -/
theorem list_extract (b : Bytes) (k : Nat) : list (b.extract 0 k) = listLevel b 0 (b.extract 0 k).size 0 := by
  have same : (b.extract 0 k).extract 0 (b.extract 0 k).size = b.extract 0 (b.extract 0 k).size := by
    rw [Array.extract_extract, Nat.zero_add, Nat.zero_add, Array.size_extract]
    congr 1
    omega
  exact (listLevel_shift (d := 0) 0 same).trans (Listing.shift_zero _)

/-! ## What readings show, keep and end with -/

/-- A reading of a level shows and keeps the records that are listed there, and ends as the listing does. -/
theorem readLevel_yields (logged : Bool) (b : Bytes) (start stop depth : Nat) :
    (readLevel logged b start stop depth).Yields (shownLines ((listLevel b start stop depth).seen.flatMap Seen.lines))
      ((listLevel b start stop depth).seen.filterMap fun r => r.body.text)
      (RecordFault.ending (listLevel b start stop depth).fault) := by
  intro s free
  rw [readLevel_eq, Script.run_of_neverFails _ free]
  simp only [Session.after, Listing.script, Seen.output_steps, Seen.textAfter_steps]
  exact ⟨trivial, trivial, trivial⟩

/-- A reading of a level ends well iff what is listed there has no fault. -/
theorem readLevel_ok_iff (logged : Bool) (b : Bytes) (start stop depth : Nat) {s : Session} (free : s.sink.NeverFails) :
    (readLevel logged b start stop depth s).1 = .ok () ↔ (listLevel b start stop depth).fault = none := by
  obtain ⟨result, -, -⟩ := readLevel_yields logged b start stop depth s free
  rw [result]
  cases (listLevel b start stop depth).fault <;> simp [RecordFault.ending]

/-- Reading records is compositional and local. Where the first part of a level is read to its end, the
level is read as that part and then the rest, fault or not. A level depends on its own bytes alone, and
the same bytes at another place differ by the offsets of the records and of the fault. So of a stream
that is cut short anywhere, what is shown and kept is the first of what the whole stream gives. -/
theorem readLevel_local (logged : Bool) (b : Bytes) (start stop depth : Nat) :
    (∀ mid, start ≤ mid → mid ≤ stop → ∀ s : Session, s.sink.NeverFails →
      (readLevel logged b start mid depth s).1 = .ok () →
        readLevel logged b start stop depth =
          (do readLevel logged b start mid depth; readLevel logged b mid stop depth) ∧
        ∃ first second texts texts' result,
          (readLevel logged b start mid depth).Yields first texts (.ok ()) ∧
          (readLevel logged b mid stop depth).Yields second texts' result ∧
          (readLevel logged b start stop depth).Yields (first ++ second) (texts ++ texts') result) ∧
    (∀ b' : Bytes, b'.extract start stop = b.extract start stop →
      readLevel logged b' start stop depth = readLevel logged b start stop depth) ∧
    (∀ (b' : Bytes) (d : Nat), b'.extract (start + d) (stop + d) = b.extract start stop →
      ∃ (records : List Seen) (texts : List String) (fault : Option RecordFault),
        (readLevel logged b start stop depth).Yields (shownLines (records.flatMap Seen.lines)) texts
          (RecordFault.ending fault) ∧
        (readLevel logged b' (start + d) (stop + d) depth).Yields
          (shownLines ((records.map (Seen.shift d)).flatMap Seen.lines)) texts
          (RecordFault.ending (fault.map (RecordFault.shift d)))) ∧
    ∀ k, ∃ output texts result more texts' result',
      (read logged (b.extract 0 k)).Yields output texts result ∧
      (read logged b).Yields (output ++ more) (texts ++ texts') result' := by
  refine ⟨fun mid ordered inside s free ok => ?_, fun b' same => ?_, fun b' d same => ?_, fun k => ?_⟩
  · have whole := (readLevel_ok_iff logged b start mid depth free).1 ok
    have split := listLevel_split ordered inside whole
    have first := readLevel_yields logged b start mid depth
    have all := readLevel_yields logged b start stop depth
    rw [whole] at first
    rw [split, Listing.followedBy_of_whole whole, List.flatMap_append, shownLines_append, List.filterMap_append] at all
    refine ⟨?_, _, _, _, _, _, first, readLevel_yields logged b mid stop depth, all⟩
    rw [readLevel_eq, split, Listing.script_followedBy, Script.run_bind, readLevel_eq, readLevel_eq]
  · have listed : listLevel b' start stop depth = listLevel b start stop depth :=
      (listLevel_shift (d := 0) depth same).trans (Listing.shift_zero _)
    rw [readLevel_eq, readLevel_eq, listed]
  · have moved := readLevel_yields logged b' (start + d) (stop + d) depth
    rw [listLevel_shift depth same] at moved
    refine ⟨_, _, _, readLevel_yields logged b start stop depth, ?_⟩
    simp only [Listing.shift, List.filterMap_map] at moved
    exact moved
  · have cut := readLevel_yields logged (b.extract 0 k) 0 (b.extract 0 k).size 0
    have whole := readLevel_yields logged b 0 b.size 0
    have shorter : (b.extract 0 k).size ≤ b.size := by
      rw [Array.size_extract]
      omega
    obtain ⟨later, records⟩ := seen_listLevel_prefix b 0 shorter
    rw [show listLevel (b.extract 0 k) 0 (b.extract 0 k).size 0 = _ from list_extract b k] at cut
    rw [← records, List.flatMap_append, shownLines_append, List.filterMap_append] at whole
    exact ⟨_, _, _, _, _, _, cut, whole⟩

/-- A text atom in front of three bytes that are no record, and both a place further on. -/
theorem readLevel_local_tail :
    let b : Bytes := #[0, 0, 168, 15, 2, 0, 0, 0, 72, 105, 1, 2, 3]
    (default : Sink).NeverFails ∧ (readLevel true b 0 10 0 default).1 = .ok () ∧
      (readLevel true b 0 13 0 default).1 = .error (.record (.trailingBytes 3 10)) ∧
      (#[7] ++ b).extract (0 + 1) (13 + 1) = b.extract 0 13 ∧
      ∃ texts output output',
        (readLevel true b 0 13 0).Yields output texts (.error (.record (.trailingBytes 3 10))) ∧
        (readLevel true (#[7] ++ b) (0 + 1) (13 + 1) 0).Yields output' texts
          (.error (.record (.trailingBytes 3 11))) := by
  intro b
  have free : (default : Session).sink.NeverFails := .inr rfl
  have same : (#[7] ++ b).extract (0 + 1) (13 + 1) = b.extract 0 13 := by decide
  let hi : Forest := .atom ⟨0, 0, 0x0FA8, 2⟩ #[72, 105] .nil
  have listed : listLevel b 0 10 0 = ⟨hi.preorder 0 0, none⟩ :=
    listLevel_encode hi (Nat.zero_le _) (by decide) (by decide) (by decide) (by decide)
  have first : (readLevel true b 0 10 0 default).1 = .ok () :=
    (readLevel_ok_iff true b 0 10 0 free).2 (by rw [listed])
  have tail : readLevel true b 10 13 0 = throw (.record (.trailingBytes 3 10)) := by
    rw [readLevel]
    rfl
  obtain ⟨split, -, moved, -⟩ := readLevel_local true b 0 13 0
  obtain ⟨-, _, _, _, _, result, -, second, whole⟩ := split 10 (by decide) (by decide) default free first
  obtain ⟨ends, -, -⟩ := second default free
  rw [tail] at ends
  obtain ⟨records, texts, fault, there, elsewhere⟩ := moved (#[7] ++ b) 1 same
  obtain ⟨ends', -, -⟩ := whole default free
  obtain ⟨ends'', -, -⟩ := there default free
  have fault_eq : fault = some (.trailingBytes 3 10) := by
    have ending : RecordFault.ending fault = .error (.record (.trailingBytes 3 10)) := by
      rw [← ends'', ends', ← ends]
      rfl
    cases fault with
    | none => cases ending
    | some f =>
      cases ending
      rfl
  subst fault_eq
  exact ⟨free, first, ends'', same, _, _, _, there, elsewhere⟩

end RecordStream

end DeckDump
