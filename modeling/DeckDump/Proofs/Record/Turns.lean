import DeckDump.Proofs.Record.Cut
import DeckDump.Proofs.Record.Local

/-!
# The turns of a reading

A level is read turn by turn: a turn starts at the end of the record in front, or at the start of the level, and
enters the level of a record that holds records. `watchLevel` is a reading that notes its turns, and `turns` are those
that it takes on a sink that never fails:

* `Turn.Within.header`: a turn with room for a header finds one, and the body behind it is inside the stream;
* `watches_readLevel`: noting the turns changes nothing, and what is noted are all turns or the first of them;
* `Orderly.record`, `orderly_turns`: all turns stay inside the stream, those of one level and those that read a header
  go on by eight bytes at least;
* `meets_turns`, `spaced_of_meets`: each record is met in a turn of its own, so records are as far apart, and there is
  one for eight bytes at most (`length_of_spaced`);
* `placed_fault`: a fault names a place inside the stream;
* `read_turns`: what this means for a reading.
-/

namespace DeckDump

/-- A turn of the reading of a level. -/
structure Turn where
  /-- Where the level starts. -/
  start : Nat
  /-- Where the level ends. -/
  stop : Nat
  /-- How many records the level lies inside. -/
  depth : Nat
  /-- How far the level has been read. -/
  pos : Nat
deriving DecidableEq

namespace Turn

/-- Whether the level goes on, and is not too short for a header. -/
def Reads (t : Turn) : Prop := t.pos < t.stop ∧ ¬ t.stop - t.pos < RecordHeader.size

instance (t : Turn) : Decidable t.Reads := inferInstanceAs (Decidable (_ ∧ _))

/-- Whether the turn is inside its level, and the level inside the stream. -/
structure Within (bytes : Bytes) (t : Turn) : Prop where
  start_le : t.start ≤ t.pos
  pos_le : t.pos ≤ t.stop
  stop_le : t.stop ≤ bytes.size

/-- Whether a later turn is eight bytes further on at least, if it is one of the same level, or one behind a header. -/
def Before (t t' : Turn) : Prop := t.start = t'.start ∨ t.Reads → t.pos + 8 ≤ t'.pos

/-- The places of the headers that turns read. -/
def headers (ts : List Turn) : List Nat := (ts.filter (Turn.Reads ·)).map Turn.pos

theorem headers_cons {t : Turn} (reads : t.Reads) (ts : List Turn) : headers (t :: ts) = t.pos :: headers ts := by
  rw [headers, List.filter_cons_of_pos (by exact decide_eq_true reads)]
  rfl

theorem headers_append (ts us : List Turn) : headers (ts ++ us) = headers ts ++ headers us := by
  rw [headers, List.filter_append, List.map_append]
  rfl

theorem Reads.fits {t : Turn} (reads : t.Reads) : t.pos + 8 ≤ t.stop := by
  have long : ¬ t.stop - t.pos < 8 := reads.2
  omega

/-- Where there is room for a header there is one, and its body is inside the stream, if it is inside the level. -/
theorem Within.header {bytes : Bytes} {t : Turn} (within : t.Within bytes) (reads : t.Reads) :
    ∃ header, RecordHeader.readAt? bytes t.pos = some header ∧
      (t.pos + 8 + header.length.toNat ≤ t.stop → (bytes.slice? (t.pos + 8) header.length.toNat).isSome = true) := by
  have fits := reads.fits
  have inside := within.stop_le
  obtain ⟨header, found⟩ := Option.isSome_iff_exists.1
    ((RecordHeader.readAt?_isSome bytes t.pos).2 (show t.pos + 8 ≤ bytes.size by omega))
  refine ⟨header, found, fun held => ?_⟩
  rw [Bytes.slice?, if_pos (by omega)]
  rfl

end Turn

namespace Script

variable {m : Script Unit} {s : Session}

theorem result_of_run_ok (ok : (m.run s).1 = .ok ()) : m.result = .ok () := by
  rw [run_apply] at ok
  rcases taken : play m.steps s with ⟨_ | _, _⟩ <;> rw [taken] at ok
  · cases ok
  · exact ok

theorem neverFails_run (free : s.sink.NeverFails) : (m.run s).2.sink.NeverFails := by
  rw [run_of_neverFails m free]
  exact Session.neverFails_after free m.steps

end Script

theorem RecordFault.ending_eq_ok_iff {fault : Option RecordFault} : ending fault = .ok () ↔ fault = none := by
  cases fault with
  | none => exact iff_of_true rfl rfl
  | some fault => exact iff_of_false nofun nofun

namespace Listing

theorem fault_followedBy_some {l m : Listing} {fault : RecordFault} (h : (l.followedBy m).fault = some fault) :
    l.fault = some fault ∨ m.fault = some fault := by
  obtain ⟨seen, _ | fault'⟩ := l
  · exact .inr h
  · exact .inl h

end Listing

namespace RecordStream

/-- Notes a turn. -/
def noteTurn (t : Turn) : Attempt (Session × List Turn) Unit := Attempt.beside (modify (· ++ [t]))

theorem noteTurn_apply (t : Turn) (s : Session) (before : List Turn) :
    noteTurn t (s, before) = (.ok (), (s, before ++ [t])) := rfl

/-- Reads a level that starts at `first` from `start` on, and notes its turns. -/
def watchLevel (logged : Bool) (bytes : Bytes) (first start stop depth : Nat) : Attempt (Session × List Turn) Unit := do
  noteTurn ⟨first, stop, depth, start⟩
  if maxDepth < depth then throw (.record (.tooDeep start))
  else if start < stop then
    if stop - start < RecordHeader.size then throw (.record (.trailingBytes (stop - start) start))
    else
      match RecordHeader.readAt? bytes start with
      | none => throw (.record (.unreadableHeader start))
      | some header =>
        let body := start + RecordHeader.size
        let next := body + header.length.toNat
        if next ≤ stop then do
          Attempt.within (showHeader logged header start depth)
          if header.isContainer then watchLevel logged bytes body body next (depth + 1)
          else Attempt.within (showAtom (AtomReading.ofBody header (bytes.extract body next) (depth + 1)))
          watchLevel logged bytes first next stop depth
        else throw (.record (.overrun header.type start header.length (stop - body)))
  else pure ()
termination_by stop - start
decreasing_by
  all_goals
    have : body = start + 8 := rfl
    omega

/-- Reads all records of a stream, and notes the turns. -/
def watch (logged : Bool) (bytes : Bytes) : Attempt (Session × List Turn) Unit :=
  watchLevel logged bytes 0 0 bytes.size 0

/-- The turns of a level that starts at `first`, from `start` on, where no sink ends them early. -/
def turns (bytes : Bytes) (first start stop depth : Nat) : List Turn :=
  let turn : Turn := ⟨first, stop, depth, start⟩
  if maxDepth < depth then [turn]
  else if start < stop then
    if stop - start < RecordHeader.size then [turn]
    else
      match RecordHeader.readAt? bytes start with
      | none => [turn]
      | some header =>
        let body := start + RecordHeader.size
        let next := body + header.length.toNat
        if next ≤ stop then
          let record : Listing :=
            if header.isContainer then .container header start depth (listLevel bytes body next (depth + 1))
            else .atom header start depth (bytes.extract body next)
          turn :: ((if header.isContainer then turns bytes body body next (depth + 1) else []) ++
            if record.fault = none then turns bytes first next stop depth else [])
        else [turn]
  else [turn]
termination_by stop - start
decreasing_by
  all_goals
    have : body = start + 8 := rfl
    omega

/-! ## Noting the turns changes nothing -/

/-- Whether `m'` does what `m` lays out and notes the turns of `ts`, or the first of them if the sink ends it early. -/
def Watches (m' : Attempt (Session × List Turn) Unit) (m : Script Unit) (ts : List Turn) : Prop :=
  ∀ s before, ∃ noted, m' (s, before) = ((m.run s).1, ((m.run s).2, before ++ noted)) ∧ noted <+: ts ∧
    ((m.run s).1 = .ok () ∨ s.sink.NeverFails → noted = ts)

namespace Watches

theorem within (m : Script Unit) : Watches (Attempt.within m.run) m [] := by
  refine fun s before => ⟨[], ?_, List.prefix_rfl, fun _ => rfl⟩
  rw [List.append_nil]
  rfl

theorem throw (e : Error) : Watches (throw e) (.fail e) [] := within (.fail e)

theorem pure : Watches (Pure.pure ()) (Pure.pure ()) [] := within (Pure.pure ())

theorem note (t : Turn) {f' : Attempt (Session × List Turn) Unit} {m : Script Unit} {us : List Turn}
    (next : Watches f' m us) : Watches (noteTurn t >>= fun _ => f') m (t :: us) := by
  intro s before
  obtain ⟨noted, run, part, whole⟩ := next s (before ++ [t])
  refine ⟨t :: noted, ?_, List.cons_prefix_cons.2 ⟨rfl, part⟩, fun unbroken => congrArg _ (whole unbroken)⟩
  rw [Attempt.bind_apply, noteTurn_apply, List.append_cons before t noted]
  exact run

/-- What comes behind a script that ends in a fault is not reached on any sink. -/
theorem bind {m' f' : Attempt (Session × List Turn) Unit} {m f : Script Unit} {ts us : List Turn}
    {fault : Option RecordFault} (ends : m.result = RecordFault.ending fault) (first : Watches m' m ts)
    (next : Watches f' f us) :
    Watches (m' >>= fun _ => f') (m >>= fun _ => f) (ts ++ if fault = none then us else []) := by
  intro s before
  obtain ⟨noted, run, part, whole⟩ := first s before
  rw [Attempt.bind_apply, Script.run_bind, Attempt.bind_apply, run]
  rcases ended : m.run s with ⟨e | _, s'⟩ <;> rw [ended] at whole
  · refine ⟨noted, rfl, part.trans (List.prefix_append ts _), fun unbroken => ?_⟩
    have free := unbroken.resolve_left nofun
    have faulted : fault ≠ none := by
      rintro rfl
      rw [Script.run_of_neverFails m free, ends] at ended
      cases ended
    rw [whole (.inr free), if_neg faulted, List.append_nil]
  · obtain ⟨noted', run', part', whole'⟩ := next s' (before ++ noted)
    obtain rfl := whole (.inl rfl)
    have unfaulted : fault = none :=
      RecordFault.ending_eq_ok_iff.1 (ends.symm.trans (Script.result_of_run_ok (congrArg Prod.fst ended)))
    have free' (free : s.sink.NeverFails) : s'.sink.NeverFails := by
      have kept := Script.neverFails_run (m := m) free
      rwa [ended] at kept
    rw [if_pos unfaulted]
    refine ⟨noted ++ noted', ?_, (List.prefix_append_right_inj noted).2 part', fun unbroken => ?_⟩
    · rw [← List.append_assoc]
      exact run'
    · rw [whole' (unbroken.imp_right free')]

/-- Steps in front note nothing. -/
theorem shown (xs : List Step) {f' : Attempt (Session × List Turn) Unit} {f : Script Unit} {us : List Turn}
    (next : Watches f' f us) :
    Watches (Attempt.within (Script.ofSteps xs).run >>= fun _ => f') (Script.ofSteps xs >>= fun _ => f) us :=
  bind (show (Script.ofSteps xs).result = RecordFault.ending none from rfl) (within (.ofSteps xs)) next

end Watches

/-- A reading that notes its turns is the reading, and notes all turns unless the sink ends it early. -/
theorem watches_readLevel (logged : Bool) (bytes : Bytes) (first start stop depth : Nat) :
    Watches (watchLevel logged bytes first start stop depth) ((listLevel bytes start stop depth).script logged)
      (turns bytes first start stop depth) := by
  fun_induction turns bytes first start stop depth with
  | case1 first start stop depth turn deep =>
    rw [watchLevel, listLevel, if_pos deep, if_pos deep]
    exact .note _ (.throw _)
  | case2 first start stop depth turn shallow more short =>
    rw [watchLevel, listLevel, if_neg shallow, if_neg shallow, if_pos more, if_pos more, if_pos short, if_pos short]
    exact .note _ (.throw _)
  | case3 first start stop depth turn shallow more long unreadable =>
    rw [watchLevel, listLevel, if_neg shallow, if_neg shallow, if_pos more, if_pos more, if_neg long, if_neg long,
      unreadable]
    exact .note _ (.throw _)
  | case4 first start stop depth turn shallow more long header found body next fits record inside later =>
    rw [watchLevel, if_neg shallow, if_pos more, if_neg long, found, listLevel_record (Nat.not_lt.1 shallow) found fits,
      Listing.script_followedBy]
    simp only [body, next] at fits
    simp only [if_pos fits, ← run_headerSteps]
    refine .note _ ?_
    by_cases container : header.isContainer
    · rw [show record = .container _ _ _ _ from if_pos container]
      simp only [if_pos container, ← bind_assoc]
      refine .bind rfl ?_ later
      rw [Listing.script_container]
      exact .shown _ inside
    · rw [show record = .atom _ _ _ _ from if_neg container]
      simp only [if_neg container, ← bind_assoc, ← run_atomSteps]
      refine .bind rfl ?_ later
      rw [Listing.script_atom]
      exact .shown _ (.within _)
  | case5 first start stop depth turn shallow more long header found body next exceeds =>
    rw [watchLevel, listLevel, if_neg shallow, if_neg shallow, if_pos more, if_pos more, if_neg long, if_neg long,
      found]
    simp only [body, next] at exceeds
    simp only [if_neg exceeds]
    exact .note _ (.throw _)
  | case6 first start stop depth turn shallow done =>
    rw [watchLevel, listLevel, if_neg shallow, if_neg shallow, if_neg done, if_neg done]
    exact .note _ .pure

/-! ## Where the turns are -/

/-- What is known of the turns of a level that starts at `first`, from `start` on. -/
structure Orderly (bytes : Bytes) (first start stop : Nat) (ts : List Turn) : Prop where
  within : ∀ t ∈ ts, t.Within bytes
  bounds : ∀ t ∈ ts, start ≤ t.pos ∧ t.stop ≤ stop
  /-- A turn of another level is one of a level behind a header. -/
  starts : ∀ t ∈ ts, t.start = first ∨ start + 8 ≤ t.start
  spaced : ts.Pairwise Turn.Before

namespace Orderly

variable {bytes : Bytes} {first start next stop depth : Nat}

theorem nil : Orderly bytes first start stop [] := ⟨nofun, nofun, nofun, .nil⟩

theorem single (ordered : first ≤ start) (inside : start ≤ stop) (fits : stop ≤ bytes.size) :
    Orderly bytes first start stop [⟨first, stop, depth, start⟩] where
  within := List.forall_mem_singleton.2 ⟨ordered, inside, fits⟩
  bounds := List.forall_mem_singleton.2 ⟨Nat.le_refl start, Nat.le_refl stop⟩
  starts := List.forall_mem_singleton.2 (.inl rfl)
  spaced := List.pairwise_singleton _ _

theorem sublist {ts us : List Turn} (orderly : Orderly bytes first start stop ts) (part : us.Sublist ts) :
    Orderly bytes first start stop us where
  within t among := orderly.within t (part.subset among)
  bounds t among := orderly.bounds t (part.subset among)
  starts t among := orderly.starts t (part.subset among)
  spaced := orderly.spaced.sublist part

/-- A turn, the turns of the level in the body of its record, and those behind the record. -/
theorem record {inner rest : List Turn} (ordered : first ≤ start) (header : start + 8 ≤ next) (inside : next ≤ stop)
    (fits : stop ≤ bytes.size) (inner_orderly : Orderly bytes (start + 8) (start + 8) next inner)
    (rest_orderly : Orderly bytes first next stop rest) :
    Orderly bytes first start stop (⟨first, stop, depth, start⟩ :: (inner ++ rest)) where
  within := by
    have behind : start ≤ stop := by omega
    refine List.forall_mem_cons.2 ⟨⟨ordered, behind, fits⟩, List.forall_mem_append.2 ⟨?_, rest_orderly.within⟩⟩
    exact inner_orderly.within
  bounds := by
    refine List.forall_mem_cons.2 ⟨⟨Nat.le_refl start, Nat.le_refl stop⟩, List.forall_mem_append.2 ⟨?_, ?_⟩⟩
    · intro t among
      have := inner_orderly.bounds t among
      omega
    · intro t among
      have := rest_orderly.bounds t among
      omega
  starts := by
    refine List.forall_mem_cons.2 ⟨.inl rfl, List.forall_mem_append.2 ⟨?_, ?_⟩⟩
    · intro t among
      have := inner_orderly.starts t among
      omega
    · intro t among
      have := rest_orderly.starts t among
      omega
  spaced := by
    refine List.pairwise_cons.2 ⟨?_, List.pairwise_append.2 ⟨inner_orderly.spaced, rest_orderly.spaced, ?_⟩⟩
    · refine List.forall_mem_append.2 ⟨fun t among _ => ?_, fun t among _ => ?_⟩
      · exact (inner_orderly.bounds t among).1
      · exact Nat.le_trans header (rest_orderly.bounds t among).1
    · -- a level inside the record starts in front of `next` and behind `first`, so it is none of those of `rest`
      intro t among t' behind related
      have place := inner_orderly.within t among
      have end_le := (inner_orderly.bounds t among).2
      have start_ge := inner_orderly.starts t among
      have pos_ge := (rest_orderly.bounds t' behind).1
      have start_or := rest_orderly.starts t' behind
      have start_le := place.start_le
      have pos_le := place.pos_le
      rcases related with same | reads
      · omega
      · have := reads.fits
        omega

end Orderly

/-- The turns of a level are inside it, and go on by eight bytes in each level and at each header. -/
theorem orderly_turns (bytes : Bytes) {first start stop : Nat} (depth : Nat) (ordered : first ≤ start)
    (inside : start ≤ stop) (fits : stop ≤ bytes.size) :
    Orderly bytes first start stop (turns bytes first start stop depth) := by
  fun_induction turns bytes first start stop depth with
  | case1 | case2 | case3 | case5 | case6 => exact .single ordered inside fits
  | case4 first start stop depth turn shallow more long header found body next held record inner later =>
    have past : body ≤ next := Nat.le_add_right _ _
    have ahead : start ≤ body := Nat.le_add_right _ _
    refine .record ordered past held fits ?_ ?_
    · split
      · exact inner (Nat.le_refl body) past (Nat.le_trans held fits)
      · exact .nil
    · split
      · exact later (by omega) held fits
      · exact .nil

/-! ## Records and their turns -/

/-- Whether the records of a listing are those whose headers are read first, and all of them if it has no fault. -/
def Meets (ts : List Turn) (l : Listing) : Prop :=
  l.seen.map Seen.offset <+: Turn.headers ts ∧ (l.fault = none → Turn.headers ts = l.seen.map Seen.offset)

namespace Meets

theorem broken (ts : List Turn) (fault : RecordFault) : Meets ts (.broken fault) := ⟨List.nil_prefix, nofun⟩

theorem followedBy {ts us : List Turn} {l m : Listing} (first : Meets ts l) (next : Meets us m) :
    Meets (ts ++ if l.fault = none then us else []) (l.followedBy m) := by
  obtain ⟨seen, _ | fault⟩ := l
  · have whole : Turn.headers ts = seen.map Seen.offset := first.2 rfl
    rw [if_pos rfl, Listing.followedBy_of_whole rfl, Meets, Turn.headers_append, whole, List.map_append]
    exact ⟨(List.prefix_append_right_inj _).2 next.1, fun unfaulted => congrArg _ (next.2 unfaulted)⟩
  · rw [if_neg nofun, List.append_nil]
    exact first

theorem container {t : Turn} (reads : t.Reads) {ts : List Turn} {inside : Listing} (meets : Meets ts inside)
    (header : RecordHeader) (depth : Nat) : Meets (t :: ts) (.container header t.pos depth inside) := by
  rw [Meets, Turn.headers_cons reads]
  exact ⟨List.cons_prefix_cons.2 ⟨rfl, meets.1⟩, fun unfaulted => congrArg _ (meets.2 unfaulted)⟩

theorem atom {t : Turn} (reads : t.Reads) (header : RecordHeader) (depth : Nat) (body : Bytes) :
    Meets [t] (.atom header t.pos depth body) := by
  rw [Meets, Turn.headers_cons reads]
  exact ⟨List.prefix_rfl, fun _ => rfl⟩

end Meets

/-- The turns of a level meet its records. -/
theorem meets_turns (bytes : Bytes) (first start stop depth : Nat) :
    Meets (turns bytes first start stop depth) (listLevel bytes start stop depth) := by
  fun_induction turns bytes first start stop depth with
  | case1 first start stop depth turn deep =>
    rw [listLevel, if_pos deep]
    exact .broken _ _
  | case2 first start stop depth turn shallow more short =>
    rw [listLevel, if_neg shallow, if_pos more, if_pos short]
    exact .broken _ _
  | case3 first start stop depth turn shallow more long unreadable =>
    rw [listLevel, if_neg shallow, if_pos more, if_neg long, unreadable]
    exact .broken _ _
  | case4 first start stop depth turn shallow more long header found body next held record inside later =>
    have reads : turn.Reads := ⟨more, long⟩
    rw [listLevel_record (Nat.not_lt.1 shallow) found held, ← List.cons_append]
    by_cases container : header.isContainer
    · rw [show record = .container _ _ _ _ from if_pos container, if_pos container, if_pos container]
      exact .followedBy (.container reads inside header depth) later
    · rw [show record = .atom _ _ _ _ from if_neg container, if_neg container, if_neg container]
      exact .followedBy (.atom reads header depth _) later
  | case5 first start stop depth turn shallow more long header found body next exceeds =>
    rw [listLevel, if_neg shallow, if_pos more, if_neg long, found]
    simp only [body, next] at exceeds
    simp only [if_neg exceeds]
    exact .broken _ _
  | case6 first start stop depth turn shallow done =>
    rw [listLevel, if_neg shallow, if_neg done, Meets, Turn.headers, List.filter_cons_of_neg]
    · exact ⟨List.prefix_rfl, fun _ => rfl⟩
    · exact fun reads => done (of_decide_eq_true reads).1

/-- Places of headers that do not overlap are an eighth of the bytes at most. -/
theorem length_of_spaced {ps : List Nat} {lo hi : Nat} (spaced : ps.Pairwise fun p q => p + 8 ≤ q)
    (inside : ∀ p ∈ ps, lo ≤ p ∧ p + 8 ≤ hi) : 8 * ps.length ≤ hi - lo := by
  induction ps generalizing lo with
  | nil => exact Nat.zero_le _
  | cons p ps ih =>
    obtain ⟨behind, rest_spaced⟩ := List.pairwise_cons.1 spaced
    obtain ⟨⟨from_lo, fits⟩, rest_inside⟩ := List.forall_mem_cons.1 inside
    have rest := ih rest_spaced fun q among => ⟨behind q among, (rest_inside q among).2⟩
    rw [List.length_cons]
    omega

/-- The places of the headers that turns of a level read. -/
theorem Orderly.headers {bytes : Bytes} {first start stop : Nat} {ts : List Turn}
    (orderly : Orderly bytes first start stop ts) :
    ((Turn.headers ts).Pairwise fun p q => p + 8 ≤ q) ∧ ∀ p ∈ Turn.headers ts, start ≤ p ∧ p + 8 ≤ stop := by
  refine ⟨List.pairwise_map.2 (List.pairwise_filter.2 (orderly.spaced.imp ?_)), ?_⟩
  · intro t t' before reads _
    exact before (.inr (of_decide_eq_true reads))
  · intro p among
    obtain ⟨t, kept, rfl⟩ := List.mem_map.1 among
    obtain ⟨among, reads⟩ := List.mem_filter.1 kept
    have fits := Turn.Reads.fits (of_decide_eq_true reads)
    have bounds := orderly.bounds t among
    omega

/-! ## Where a fault is -/

end RecordStream

/-- Whether what a fault says of its place is inside the stream. No stream has a header that cannot be read; the
offset of a field is one in its atom. -/
def RecordFault.Placed (bytes : Bytes) : RecordFault → Prop
  | .tooDeep offset => offset ≤ bytes.size
  | .trailingBytes count offset => 0 < count ∧ count < 8 ∧ offset + count ≤ bytes.size
  | .unreadableHeader _ => False
  | .overrun _ offset claimed remaining => offset + 8 + remaining ≤ bytes.size ∧ remaining < claimed.toNat
  | .fieldTooShort _ _ _ _ => True

/-- A fault that moves with its stream no place on is one of a field. -/
theorem RecordFault.Placed.of_shift {fault : RecordFault} (fixed : fault.shift 1 = fault) (bytes : Bytes) :
    fault.Placed bytes := by
  cases fault <;> simp [shift, Placed] at fixed ⊢

namespace RecordStream

theorem placed_fault {bytes : Bytes} {start stop depth : Nat} {fault : RecordFault} (inside : start ≤ stop)
    (fits : stop ≤ bytes.size) (failed : (listLevel bytes start stop depth).fault = some fault) :
    fault.Placed bytes := by
  fun_induction listLevel bytes start stop depth with
  | case1 start stop depth deep =>
    cases failed
    exact Nat.le_trans inside fits
  | case2 start stop depth shallow more short =>
    cases failed
    have few : stop - start < 8 := short
    exact ⟨by omega, few, by omega⟩
  | case3 start stop depth shallow more long unreadable =>
    have room : ¬ stop - start < 8 := long
    have readable := (RecordHeader.readAt?_isSome bytes start).2 (show start + 8 ≤ bytes.size by omega)
    rw [unreadable] at readable
    cases readable
  | case4 start stop depth shallow more long header found body next held inner later =>
    have past : body ≤ next := Nat.le_add_right _ _
    obtain first | behind := Listing.fault_followedBy_some failed
    · split at first
      · exact inner past (Nat.le_trans held fits) first
      · have fixed := AtomReading.shift_fault_ofBody header (bytes.extract body next) (depth + 1) 1
        simp only [Listing.atom, Seen.atom] at first
        rw [first] at fixed
        exact .of_shift (Option.some.inj fixed) bytes
    · exact later held fits behind
  | case5 start stop depth shallow more long header found body next exceeds =>
    cases failed
    have room : ¬ stop - start < 8 := long
    have body_eq : body = start + 8 := rfl
    exact ⟨show start + 8 + (stop - body) ≤ bytes.size by omega, show stop - body < header.length.toNat by omega⟩
  | case6 => cases failed

/-! ## All turns of a reading -/

/-- Records that orderly turns meet. -/
theorem spaced_of_meets {bytes : Bytes} {first start stop : Nat} {ts : List Turn} {l : Listing}
    (orderly : Orderly bytes first start stop ts) (meets : Meets ts l) :
    (l.seen.Pairwise fun r r' => r.offset + 8 ≤ r'.offset) ∧ 8 * l.seen.length ≤ stop - start := by
  obtain ⟨spaced, inside⟩ := orderly.headers
  refine ⟨List.pairwise_map.1 (spaced.sublist meets.1.sublist), ?_⟩
  have count := length_of_spaced spaced inside
  have fewer := meets.1.length_le
  rw [List.length_map] at fewer
  omega

/-- The bounds of a reading. The records that it shows are an eighth of the bytes at most, with offsets that increase;
a sink that fails holds the first bytes of them. Each turn, on any sink, is inside its level and the level inside the
stream; where eight bytes are left, the header can be read, and the body behind it is in range unless it is refused.
Turns of one level, and any behind a header, go on by eight bytes, so no header is read twice, and there is one for
eight bytes at most; where no sink ends the reading early, the first of them are those of the records. So no reading
ends in a header that cannot be read. -/
theorem read_turns (logged : Bool) (bytes : Bytes) :
    (∃ (records : List Seen) (texts : List String) (result : Except Error Unit),
      (read logged bytes).Yields (shownLines (records.flatMap Seen.lines)) texts result ∧
      (records.Pairwise fun r r' => r.offset + 8 ≤ r'.offset) ∧ 8 * records.length ≤ bytes.size ∧
      ∀ s, ∃ ts, watch logged bytes (s, []) = ((read logged bytes s).1, ((read logged bytes s).2, ts)) ∧
        (∀ t ∈ ts, t.start ≤ t.pos ∧ t.pos ≤ t.stop ∧ t.stop ≤ bytes.size ∧
          (t.Reads → t.pos + 8 ≤ t.stop ∧ ∃ header, RecordHeader.readAt? bytes t.pos = some header ∧
            (t.pos + 8 + header.length.toNat ≤ t.stop →
              (bytes.slice? (t.pos + 8) header.length.toNat).isSome = true))) ∧
        (ts.Pairwise fun t t' => t.start = t'.start ∨ t.Reads → t.pos + 8 ≤ t'.pos) ∧
        ((Turn.headers ts).Pairwise fun p q => p + 8 ≤ q) ∧ 8 * (Turn.headers ts).length ≤ bytes.size ∧
        (s.sink.NeverFails → records.map Seen.offset <+: Turn.headers ts)) ∧
    PrefixLaw (read logged bytes) ∧
    (∀ s fault, (read logged bytes s).1 = .error (.record fault) → fault.Placed bytes) ∧
    ∀ s offset, (read logged bytes s).1 ≠ .error (.record (.unreadableHeader offset)) := by
  have orderly := orderly_turns bytes 0 (Nat.le_refl 0) (Nat.zero_le bytes.size) (Nat.le_refl bytes.size)
  have meets := meets_turns bytes 0 0 bytes.size 0
  have placed {s : Session} {fault : RecordFault} (failed : (read logged bytes s).1 = .error (.record fault)) :
      fault.Placed bytes :=
    placed_fault (Nat.zero_le bytes.size) (Nat.le_refl bytes.size) (fault_of_read failed)
  obtain ⟨spaced, count⟩ := spaced_of_meets orderly meets
  refine ⟨⟨_, _, _, readLevel_yields logged bytes 0 bytes.size 0, spaced, count, fun s => ?_⟩,
    prefixLaw_read logged bytes, fun _ _ => placed, fun _ _ failed => placed failed⟩
  obtain ⟨ts, run, part, whole⟩ := watches_readLevel logged bytes 0 0 bytes.size 0 s []
  have noted := orderly.sublist part.sublist
  obtain ⟨apart, inside⟩ := noted.headers
  refine ⟨ts, ?_, fun t among => ?_, noted.spaced, apart, length_of_spaced apart inside, fun free => ?_⟩
  · rw [read_eq]
    exact run
  · have within := noted.within t among
    exact ⟨within.start_le, within.pos_le, within.stop_le, fun reads => ⟨reads.fits, within.header reads⟩⟩
  · rw [whole (.inr free)]
    exact meets.1

/-- A record that holds one whose body is missing: the turns of two levels, and the fault that ends them. -/
theorem read_turns_nested :
    let b : Bytes := #[15, 0, 238, 3, 8, 0, 0, 0, 0, 0, 168, 15, 2, 0, 0, 0]
    let fault : RecordFault := .overrun 0x0FA8 8 2 0
    let ts : List Turn := [⟨0, 16, 0, 0⟩, ⟨8, 16, 1, 8⟩]
    (read true b default).1 = .error (.record fault) ∧ fault.Placed b ∧
      watch true b (default, []) = ((read true b default).1, ((read true b default).2, ts)) ∧
      Turn.headers ts = [0, 8] ∧ 8 * (Turn.headers ts).length ≤ b.size := by
  intro b fault ts
  have found : RecordHeader.readAt? b 0 = some ⟨15, 0, 0x03EE, 8⟩ := by decide
  have inner : watchLevel true b 8 8 16 1 = (do noteTurn ⟨8, 16, 1, 8⟩; throw (.record fault)) := by
    rw [watchLevel]
    rfl
  have outer : watch true b = (do
      noteTurn ⟨0, 16, 0, 0⟩
      Attempt.within (showHeader true ⟨15, 0, 0x03EE, 8⟩ 0 0)
      watchLevel true b 8 8 16 1
      watchLevel true b 0 16 16 0) := by
    rw [watch, watchLevel, if_neg (by decide), if_pos (by decide), if_neg (by decide), found]
    rfl
  have watched : (watch true b (default, [])).1 = .error (.record fault) ∧ (watch true b (default, [])).2.2 = ts := by
    rw [outer, inner, Attempt.bind_apply, noteTurn_apply]
    exact ⟨rfl, rfl⟩
  obtain ⟨⟨records, _, _, -, -, -, all⟩, -, placed, -⟩ := read_turns true b
  obtain ⟨ts', run, -, -, -, count, -⟩ := all default
  rw [run] at watched
  obtain ⟨ended, rfl⟩ := watched
  exact ⟨ended, placed default fault ended, run, rfl, count⟩

end RecordStream

end DeckDump
