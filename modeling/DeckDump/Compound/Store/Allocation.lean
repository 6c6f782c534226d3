import DeckDump.Compound.Header

/-!
# Checked allocation tables

The allocation table as the strict reader takes it: every listed sector must be in the file,
every link must lead to a listed sector, and no two links may lead to the same one. A chain that
is followed must therefore end or come back to its start.
-/

namespace DeckDump.Compound.Store

/-- A file as a sequence of sectors of one size. -/
structure Sectors where
  data : Bytes
  size : Nat

namespace Sectors

/-- How many sectors, whole or cut short, follow the header's. -/
def count (s : Sectors) : Nat := (s.data.size + s.size - 1) / s.size - 1

/-- Where a sector starts. -/
def start (s : Sectors) (id : SectorId) : Nat := (id.toNat + 1) * s.size

/-- Word number `i` of a sector. -/
def wordAt (s : Sectors) (id : SectorId) (i : Nat) : Except StoreFault UInt32 :=
  match s.data.u32At? (s.start id + 4 * i) with
  | some w => .ok w
  | none => .error .endOfFile

/-- The first `n` words of a sector, from word `i` on. -/
def words (s : Sectors) (id : SectorId) (i : Nat) : (n : Nat) → Except StoreFault (List UInt32)
  | 0 => .ok []
  | n + 1 => do
    let w ← s.wordAt id i
    let later ← s.words id (i + 1) n
    return w :: later

/-- How many words a sector has. -/
def wordsPerSector (s : Sectors) : Nat := s.size / 4

end Sectors

/-- The sectors listed by the header: behind the first free entry all count as free. -/
def headerDifat : List SectorId → Except StoreFault (List SectorId)
  | [] => .ok []
  | e :: rest =>
    if e = SectorId.free then .ok (List.replicate (rest.length + 1) SectorId.free)
    else if ¬ SectorId.isRegular e then .error (.headerDifat e)
    else do
      let later ← headerDifat rest
      return e :: later

/-- The `n` sectors that a DIFAT sector lists from word `i` on. -/
def difatEntries (s : Sectors) (id : SectorId) (i : Nat) : (n : Nat) → Except StoreFault (List SectorId)
  | 0 => .ok []
  | n + 1 => do
    let e ← s.wordAt id i
    if ¬ SectorId.isRegular e ∧ e ≠ SectorId.free then throw (.difatInvalid e)
    let later ← difatEntries s id (i + 1) n
    return e :: later

/-- The chain of DIFAT sectors from `id` on, and all that they list. `seen` are the ones in front, and
`limit` is how many more the file can have. -/
def difatChain (s : Sectors) (limit : Nat) (id : SectorId) (seen : List SectorId) :
    Except StoreFault (List SectorId × List SectorId) :=
  if id = SectorId.endOfChain then .ok ([], [])
  else if ¬ id.isRegular then .error (.difatChainInvalid id)
  else if s.count ≤ id.toNat then .error (.difatChainBeyond id s.count)
  else if id ∈ seen then .error (.difatChainRepeats id)
  else
    match limit with
    | 0 => .error (.difatChainRepeats id)
    | limit + 1 => do
      let listed ← difatEntries s id 0 (s.wordsPerSector - 1)
      let next ← s.wordAt id (s.wordsPerSector - 1)
      let (ids, later) ← difatChain s limit next (id :: seen)
      return (id :: ids, listed ++ later)

/-- A list without the free entries at its end. -/
def dropFreeEnd (ids : List SectorId) : List SectorId := (ids.reverse.dropWhile (· == SectorId.free)).reverse

/-- The words of the sectors that hold the table. -/
def tableWords (s : Sectors) : List SectorId → Except StoreFault (List UInt32)
  | [] => .ok []
  | id :: rest => do
    if s.count ≤ id.toNat then throw (.difatBeyond id s.count)
    let here ← s.words id 0 s.wordsPerSector
    let later ← tableWords s rest
    return here ++ later

/-- Drops zeros at the end of a table that has more than `n` entries. -/
def dropZeros (n : Nat) (fat : Array SectorId) : Array SectorId :=
  if n < fat.size ∧ fat.back? = some 0 then dropZeros n fat.pop else fat
termination_by fat.size
decreasing_by
  simp
  omega

/-- Marks sectors in the table; each of them must be listed there. -/
def markAll (unlisted : SectorId → StoreFault) (mark : SectorId) (fat : Array SectorId) :
    List SectorId → Except StoreFault (Array SectorId)
  | [] => .ok fat
  | id :: rest =>
    if h : id.toNat < fat.size then markAll unlisted mark (fat.set id.toNat mark) rest
    else .error (unlisted id)

/-- What is wrong with a link of a table. -/
structure LinkFaults where
  /-- Entry `i` leads to a sector that is not listed. -/
  beyond : (i : Nat) → (target : SectorId) → StoreFault
  /-- Two entries lead to the same sector. -/
  twice : (target : SectorId) → StoreFault
  /-- The number between the sectors and the marks, where it is refused. -/
  gap : Option StoreFault

/-- The number that neither names a sector nor is a mark. -/
def gapNumber : SectorId := 0xFFFFFFFB

/-- Checks the links of a table from entry `i` on; `hit` says which sectors are led to already. -/
def checkLinks (faults : LinkFaults) : List SectorId → (i : Nat) → (hit : Array Bool) → Except StoreFault Unit
  | [], _, _ => .ok ()
  | t :: rest, i, hit =>
    if SectorId.isRegular t then
      if h : t.toNat < hit.size then
        if hit[t.toNat] then .error (faults.twice t)
        else checkLinks faults rest (i + 1) (hit.set t.toNat true)
      else .error (faults.beyond i t)
    else
      match faults.gap with
      | some fault => if t = gapNumber then .error fault else checkLinks faults rest (i + 1) hit
      | none => checkLinks faults rest (i + 1) hit

/-- Assembles and checks the allocation table of a file. -/
def loadFat (s : Sectors) (header : Header) : Except StoreFault (Array SectorId) := do
  let first ← headerDifat header.difat.toList
  if s.data.size < s.size then throw (.fileTooShort s.data.size s.size)
  let start := if header.firstDifatSector = SectorId.free then SectorId.endOfChain else header.firstDifatSector
  let (difatSectors, later) ← difatChain s s.count start []
  let fatSectors := dropFreeEnd (first ++ later)
  let words ← tableWords s fatSectors
  let fat := (dropZeros s.count words.toArray).popWhile (· == SectorId.free)
  let n := fat.size
  if s.count < n then throw (.fatTooLong n s.count)
  let fat ← markAll (.difatSectorUnlisted n) SectorId.difatMark fat difatSectors
  let fat ← markAll (.fatSectorUnlisted n) SectorId.fatMark fat fatSectors
  checkLinks ⟨.fatLinkBeyond n, .fatLinkTwice, some .fatInvalidMark⟩ fat.toList 0 (Array.replicate n false)
  return fat

/-- A table of links with the wording of its faults. -/
structure Links where
  table : Array SectorId
  /-- A sector that the table has no entry for. -/
  unlisted : SectorId → StoreFault
  /-- A chain that comes back to its start. -/
  repeats : SectorId → StoreFault

namespace Links

/-- The links between sectors. -/
def ofFat (fat : Array SectorId) : Links := ⟨fat, (.sectorUnlisted · fat.size), .chainRepeats⟩

/-- The links between mini sectors. -/
def ofMiniFat (miniFat : Array SectorId) : Links :=
  ⟨miniFat, (.miniSectorUnlisted · miniFat.size), .miniChainRepeats⟩

/-- What follows a sector in its chain. -/
def next (l : Links) (id : SectorId) : Except StoreFault SectorId :=
  match l.table[id.toNat]? with
  | none => .error (l.unlisted id)
  | some v =>
    if v ≠ SectorId.endOfChain ∧ (¬ v.isRegular ∨ l.table.size ≤ v.toNat) then .error (.linkInvalid v) else .ok v

/-- The chain that started at `start`, from `id` on; `limit` is how many more sectors it can have. -/
def chainFrom (l : Links) (start : SectorId) (limit : Nat) (id : SectorId) : Except StoreFault (List SectorId) :=
  if id = SectorId.endOfChain then .ok []
  else
    match limit with
    | 0 => .error (l.repeats id)
    | limit + 1 => do
      let v ← l.next id
      if v = start then throw (l.repeats v)
      let later ← chainFrom l start limit v
      return id :: later

/-- The chain from `start` on. -/
def chain (l : Links) (start : SectorId) : Except StoreFault (List SectorId) :=
  l.chainFrom start (l.table.size + 1) start

end Links

end DeckDump.Compound.Store
