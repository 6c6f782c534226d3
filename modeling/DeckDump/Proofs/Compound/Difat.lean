import DeckDump.Compound.SectorTable
import DeckDump.Proofs.Compound.Header
import DeckDump.Proofs.Compound.Sector
import Mathlib.Logic.Function.Iterate
import Mathlib.Tactic.Tauto

/-!
# Loading the sector table

The DIFAT sectors name one another, and each lists sectors of the table. Nothing that they say is trusted:

* `difatWalk`: the DIFAT sectors that are visited, whatever number of them the header gives;
* `listed`: the sectors that the header and the visited DIFAT sectors list;
* `difatFrom_succ`: one step of the walk, which only needs to know the sectors that it has left behind;
* `fst_difatLists`, `wordsOf_eq`: what both readings come to, or the sector behind the end that stops them;
* `fst_load`: so what loading comes to;
* `load_listed`: it fails iff one of the sectors that it needs is behind the end, and is bounded by the file.
-/

namespace DeckDump.Compound.SectorTable

section

variable (data : Bytes) (header : Header)

/-- The sector that a DIFAT sector names in its last word. The walk ends where that word is cut off. -/
def nextDifat (id : SectorId) : SectorId :=
  (data.u32At? (header.sectorStart id + (header.sectorSize - 4))).getD SectorId.endOfChain

/-- Number `i` of the sectors from `start` on, each of which the one in front of it names. -/
def difatAt (start : SectorId) (i : Nat) : SectorId := (nextDifat data header)^[i] start

/-- The DIFAT sectors that are visited: as many as the header and the file have at most, up to a number that
names no sector, or to a sector that has been visited. -/
def difatWalk : List SectorId :=
  let id := difatAt data header header.firstDifatSector
  ((List.range (min header.difatSectors.toNat (header.sectorCount data.size))).takeWhile fun i =>
    (id i).isRegular ∧ id i ∉ (List.range i).map id).map id

/-- The sectors that a DIFAT sector lists, in front of its last word. -/
def difatEntries (id : SectorId) : List SectorId :=
  ((header.sectorWords data id).take (header.sectorSize / 4 - 1)).takeWhile SectorId.isRegular

/-- The sectors of the table that the header lists, and behind them those that the DIFAT sectors list. -/
def listed : List SectorId :=
  header.difat.toList.takeWhile SectorId.isRegular ++ (difatWalk data header).flatMap (difatEntries data header)

/-- Whether a number names a sector behind the end of the file. -/
def beyond (id : SectorId) : Bool := header.sectorCount data.size ≤ id.toNat

/-! ## The walk -/

/-- Whether number `i` from `start` on is visited when those in front of it have been, and those of `seen`. -/
def visits (start : SectorId) (seen : List SectorId) (i : Nat) : Bool :=
  let id := difatAt data header start
  (id i).isRegular ∧ id i ∉ (List.range i).map id ∧ id i ∉ seen

/-- The DIFAT sectors that are visited from `start` on, `limit` at most, when those of `seen` have been. -/
def difatFrom (limit : Nat) (start : SectorId) (seen : List SectorId) : List SectorId :=
  ((List.range limit).takeWhile (visits data header start seen)).map (difatAt data header start)

theorem difatWalk_eq : difatWalk data header = difatFrom data header
    (min header.difatSectors.toNat (header.sectorCount data.size)) header.firstDifatSector [] := by
  have first (i : Nat) : visits data header header.firstDifatSector [] i =
      decide ((difatAt data header header.firstDifatSector i).isRegular = true ∧
        difatAt data header header.firstDifatSector i ∉
          (List.range i).map (difatAt data header header.firstDifatSector)) := by
    simp only [visits, List.not_mem_nil, not_false_eq_true, and_true]
  rw [difatWalk, difatFrom, funext first]

theorem difatWalk_of_zero {data : Bytes} {header : Header} (none : header.difatSectors = 0) :
    difatWalk data header = [] := by
  rw [difatWalk, none, UInt32.toNat_zero, Nat.zero_min]
  rfl

theorem difatAt_succ (start : SectorId) (i : Nat) :
    difatAt data header start (i + 1) = difatAt data header (nextDifat data header start) i :=
  Function.iterate_succ_apply ..

/-- What is visited behind the first sector is visited from the second one on, with the first one left behind. -/
theorem visits_succ (start : SectorId) (seen : List SectorId) (i : Nat) :
    visits data header start seen (i + 1) = visits data header (nextDifat data header start) (start :: seen) i := by
  have front : (List.range (i + 1)).map (difatAt data header start) =
      start :: (List.range i).map (difatAt data header (nextDifat data header start)) := by
    rw [List.range_succ_eq_map, List.map_cons, List.map_map]
    exact congrArg _ (List.map_congr_left fun i _ => difatAt_succ data header start i)
  simp only [visits, decide_eq_decide, front, difatAt_succ, List.mem_cons]
  tauto

/-- The walk goes on from the sector that its first one names. -/
theorem difatFrom_succ (limit : Nat) (start : SectorId) (seen : List SectorId) :
    difatFrom data header (limit + 1) start seen =
      if start.isRegular ∧ start ∉ seen then
        start :: difatFrom data header limit (nextDifat data header start) (start :: seen)
      else [] := by
  have first : visits data header start seen 0 = decide (start.isRegular ∧ start ∉ seen) :=
    decide_eq_decide.2 (and_congr_right fun _ => and_iff_right List.not_mem_nil)
  rw [difatFrom, List.range_succ_eq_map, List.takeWhile_cons, List.takeWhile_map, first]
  simp only [Function.comp_def, Nat.succ_eq_add_one, visits_succ, decide_eq_true_eq]
  by_cases goes : start.isRegular = true ∧ start ∉ seen
  · rw [if_pos goes, if_pos goes, List.map_cons, List.map_map, difatFrom]
    exact congrArg _ (List.map_congr_left fun i _ => difatAt_succ data header start i)
  · rw [if_neg goes, if_neg goes, List.map_nil]

/-! ## Loading -/

theorem beyond_iff {data : Bytes} {header : Header} {id : SectorId} :
    beyond data header id = true ↔ data.size ≤ header.sectorStart id := by
  rw [beyond, decide_eq_true_eq, ← Nat.not_lt, header.lt_sectorCount_iff, Nat.not_lt]
  rfl

theorem find?_beyond_eq_none_iff {ids : List SectorId} :
    ids.find? (beyond data header) = none ↔ ¬ ∃ id ∈ ids, header.sectorCount data.size ≤ id.toNat := by
  simp [beyond]

/-- The sectors that DIFAT sectors list, unless one of those is behind the end of the file. -/
theorem fst_difatLists (aligned : 4 ∣ header.sectorSize) (limit : Nat) (sector : SectorId) (seen : List SectorId)
    (inside : ∀ id ∈ seen, beyond data header id = false) (log : Log) :
    (difatLists data header limit sector seen log).1 =
      match (difatFrom data header limit sector seen).find? (beyond data header) with
      | some id => .error (.table (.difatBeyondEnd id))
      | none => .ok ((difatFrom data header limit sector seen).flatMap (difatEntries data header)) := by
  induction limit generalizing sector seen log with
  | zero => rfl
  | succ limit ih =>
    rw [difatLists, difatFrom_succ]
    by_cases regular : sector.isRegular = true
    case neg =>
      rw [if_pos regular, if_neg (fun goes => regular goes.1)]
      rfl
    rw [if_neg (not_not.2 regular)]
    by_cases out : beyond data header sector = true
    · -- a sector that has been visited lies inside the file, so this one has not
      have fresh : sector ∉ seen := fun met => by simp [inside sector met] at out
      rw [if_pos (of_decide_eq_true out), if_pos ⟨regular, fresh⟩, List.find?_cons_of_pos out]
      rfl
    have within : sector.toNat < header.sectorCount data.size := by simpa [beyond] using out
    rw [if_neg (Nat.not_le.2 within)]
    by_cases met : sector ∈ seen
    · rw [if_pos met, if_neg (fun goes => goes.2 met)]
      rfl
    rw [if_neg met, if_pos ⟨regular, met⟩, List.find?_cons_of_neg out, header.readSector_eq, if_pos within,
      List.flatMap_cons]
    have next : (Bytes.u32At? (header.sectorBytes data sector) (4 * perDifatSector header)).getD SectorId.endOfChain =
        nextDifat data header sector := by
      have pos := header.sectorSize_pos
      have last : 4 * (header.sectorSize / 4 - 1) = header.sectorSize - 4 := by omega
      rw [nextDifat, perDifatSector, last, Header.sectorBytes, Bytes.u32At?_extract _ (by omega)]
    have behind : ∀ id ∈ sector :: seen, beyond data header id = false :=
      List.forall_mem_cons.2 ⟨Bool.eq_false_iff.2 out, inside⟩
    have rest := ih (nextDifat data header sector) _ behind log
    show ((difatLists data header limit
      ((Bytes.u32At? (header.sectorBytes data sector) (4 * perDifatSector header)).getD SectorId.endOfChain)
      (sector :: seen) >>= fun later => pure (difatEntries data header sector ++ later)) log).1 = _
    rw [next, Attempt.bind_apply]
    rcases later : difatLists data header limit (nextDifat data header sector) (sector :: seen) log with
      ⟨result, log'⟩
    rw [later] at rest
    obtain rfl : result = _ := rest
    cases (difatFrom data header limit (nextDifat data header sector) (sector :: seen)).find? (beyond data header) with
    | some id => rfl
    | none => rfl

/-- The words of sectors, unless one of those is behind the end of the file. -/
theorem wordsOf_eq (ids : List SectorId) :
    wordsOf data header ids =
      match ids.find? (beyond data header) with
      | some id => .error (.sectorBeyondEnd id (header.sectorStart id) data.size)
      | none => .ok (ids.flatMap (header.sectorWords data)) := by
  induction ids with
  | nil => rfl
  | cons id ids ih =>
    rw [wordsOf, header.readSector_eq]
    by_cases out : beyond data header id = true
    · rw [List.find?_cons_of_pos out, if_neg (Nat.not_lt.2 (of_decide_eq_true out))]
      rfl
    · rw [List.find?_cons_of_neg out, if_pos (by simpa [beyond] using out), ih]
      cases ids.find? (beyond data header) with
      | some id => rfl
      | none => rfl

/-- An event that is noted under a condition changes nothing of how an attempt ends that does not read the log. -/
theorem fst_noteIf {α : Type} {c : Prop} [Decidable c] {e : Event} {f : Unit → Logged α} {result : Except Error α}
    (ends : ∀ log, (f () log).1 = result) (log : Log) :
    ((if c then Logged.note e >>= f else f ()) log).1 = result := by
  split
  · exact ends (log.push e)
  · exact ends log

/-- What loading a table comes to: the first `sectors` of the listed sectors with their words, unless a sector
that is needed is behind the end of the file. -/
theorem fst_load (aligned : 4 ∣ header.sectorSize) (log : Log) :
    (load data header log).1 =
      match (difatWalk data header).find? (beyond data header) with
      | some id => .error (.table (.difatBeyondEnd id))
      | none =>
        let sectors := (listed data header).take (header.sectorCount data.size)
        match sectors.find? (beyond data header) with
        | some id => .error (.table (.sectorBeyondEnd id (header.sectorStart id) data.size))
        | none => .ok ⟨sectors, (sectors.flatMap (header.sectorWords data)).toArray⟩ := by
  have walked := fst_difatLists data header aligned (min header.difatSectors.toNat (header.sectorCount data.size))
    header.firstDifatSector [] (fun _ met => absurd met List.not_mem_nil) log
  rw [← difatWalk_eq] at walked
  rw [load, Attempt.bind_apply]
  rcases difat : difatLists data header (min header.difatSectors.toNat (header.sectorCount data.size))
    header.firstDifatSector [] log with ⟨result, log'⟩
  rw [difat] at walked
  obtain rfl : result = _ := walked
  cases (difatWalk data header).find? (beyond data header) with
  | some id => rfl
  | none =>
    refine fst_noteIf (fun log => fst_noteIf (fun log => ?_) log) log'
    dsimp only
    rw [wordsOf_eq, ← listed]
    cases ((listed data header).take (header.sectorCount data.size)).find? (beyond data header) with
    | some id => rfl
    | none => rfl

end

/-- Loading ends. It fails iff a DIFAT sector on the walk, or one of the sectors that are taken of those listed,
is behind the end of the file. Otherwise the table has the sectors that are taken, and their words one behind the
other; the file bounds both, whatever numbers the header gives. -/
theorem load_listed {data : Bytes} {header : Header} (parsed : Header.parse data = .ok header) (log : Log) :
    let sectors := header.sectorCount data.size
    let taken := (listed data header).take sectors
    let words := taken.flatMap (header.sectorWords data)
    let outside := (∃ id ∈ difatWalk data header, sectors ≤ id.toNat) ∨ ∃ id ∈ taken, sectors ≤ id.toNat
    ((∃ e, (load data header log).1 = .error e ∧ e.kind = .corruptedFile) ↔ outside) ∧
      (¬ outside → (load data header log).1 = .ok ⟨taken, words.toArray⟩) ∧
      taken.length = min (listed data header).length sectors ∧
      words.length ≤ sectors * (header.sectorSize / 4) := by
  intro sectors taken words outside
  have ends := fst_load data header (Header.dvd_sectorSize parsed (by decide)) log
  have few : taken.length = min (listed data header).length sectors := by
    rw [List.length_take, Nat.min_comm]
  have fails : outside → ∃ e, (load data header log).1 = .error e ∧ e.kind = .corruptedFile := by
    rw [ends]
    intro met
    cases walked : (difatWalk data header).find? (beyond data header) with
    | some id => exact ⟨_, rfl, rfl⟩
    | none =>
      have behind := met.resolve_left ((find?_beyond_eq_none_iff data header).1 walked)
      obtain ⟨id, out⟩ : ∃ id, taken.find? (beyond data header) = some id :=
        Option.ne_none_iff_exists'.1 fun inside => (find?_beyond_eq_none_iff data header).1 inside behind
      exact ⟨.table (.sectorBeyondEnd id (header.sectorStart id) data.size), by dsimp only; rw [out], rfl⟩
  have loads : ¬ outside → (load data header log).1 = .ok ⟨taken, words.toArray⟩ := fun inside => by
    have walked : (difatWalk data header).find? (beyond data header) = none :=
      (find?_beyond_eq_none_iff data header).2 fun met => inside (.inl met)
    have taken_inside : taken.find? (beyond data header) = none :=
      (find?_beyond_eq_none_iff data header).2 fun met => inside (.inr met)
    rw [ends, walked]
    dsimp only
    rw [taken_inside]
  have bounded : words.length ≤ sectors * (header.sectorSize / 4) :=
    Nat.le_trans (header.length_words_le data taken) (Nat.mul_le_mul_right _ (by omega))
  refine ⟨⟨fun ⟨e, failed, _⟩ => ?_, fails⟩, loads, few, bounded⟩
  by_contra inside
  rw [loads inside] at failed
  cases failed

/-- The header of a document with a DIFAT sector, though it gives nine of them. -/
def nineDifat : Header := { Header.blank with firstDifatSector := 0, difatSectors := 9, fatSectors := 1 }

/-- A DIFAT sector that lists sector 1 and names itself as the next one. -/
def selfNaming : List UInt32 := 1 :: List.replicate 126 SectorId.free ++ [0]

/-- The part of sector 1 that is there. -/
def marks : List UInt32 := [SectorId.difatMark, SectorId.fatMark]

/-- A document of these, which ends inside a word. -/
def selfNamingFile : Bytes :=
  (nineDifat.encode ++ (selfNaming.flatMap bytesOf32 ++ (marks.flatMap bytesOf32 ++ [0xFF, 0xFF]))).toArray

/-- The DIFAT sector that names itself is visited once, and the table has the two words that are there. -/
theorem load_listed_selfNaming :
    Header.parse selfNamingFile = .ok nineDifat ∧
      (load selfNamingFile nineDifat #[]).1 = .ok ⟨[1], #[SectorId.difatMark, SectorId.fatMark]⟩ := by
  have parsed : Header.parse selfNamingFile = .ok nineDifat := Header.parse_append rfl rfl (by decide) _
  have all : selfNaming.length = 128 := by decide +kernel
  have size : selfNamingFile.size = 1034 := by
    rw [selfNamingFile, List.size_toArray, List.length_append, Header.length_encode, List.length_append,
      length_flatMap_of_length length_bytesOf32, all]
    rfl
  have file : selfNamingFile.HoldsAt 0 _ := Bytes.holdsAt_whole _
  rw [Bytes.holdsAt_append, Bytes.holdsAt_append, Bytes.holdsAt_append, Header.length_encode,
    length_flatMap_of_length length_bytesOf32, all] at file
  obtain ⟨-, first, second, -⟩ := file
  have lists : nineDifat.sectorWords selfNamingFile 0 = selfNaming :=
    Header.sectorWords_of_holdsAt first (by rw [all]; decide) (by rw [size, all]; decide)
  have table : nineDifat.sectorWords selfNamingFile 1 = marks :=
    Header.sectorWords_of_holdsAt second (by decide) (by rw [size]; decide)
  have walk : difatWalk selfNamingFile nineDifat = [0] := by decide +kernel
  have one : (listed selfNamingFile nineDifat).take (nineDifat.sectorCount selfNamingFile.size) = [1] := by
    rw [listed, walk, List.flatMap_cons, difatEntries, lists, size]
    decide
  have loaded := (load_listed parsed #[]).2.1
  rw [one, walk, size] at loaded
  refine ⟨parsed, (loaded (by decide)).trans ?_⟩
  rw [List.flatMap_cons, table]
  rfl

end DeckDump.Compound.SectorTable
