import DeckDump.Compound.Header

/-!
# The sector table

For each sector the one that follows it in its chain, read from the sectors that the header and
the DIFAT sectors list. Whatever the header claims, no more sectors are read than the file has,
and every chain that is followed ends.

* `length_follow_le`: a chain is no longer than it is allowed to be
-/

namespace DeckDump.Compound

/-- The sectors that hold the table, and its entries. -/
structure SectorTable where
  fatSectors : List SectorId
  fat : Array SectorId
deriving DecidableEq, Inhabited

namespace SectorTable

/-- How many sectors a DIFAT sector lists at most; the word behind them names the next one. -/
def perDifatSector (header : Header) : Nat := header.sectorSize / 4 - 1

/-- The sectors listed by the DIFAT sectors from `sector` on, of which at most `limit` are read. The
ones read before are `seen`. -/
def difatLists (data : Bytes) (header : Header) :
    (limit : Nat) → (sector : SectorId) → (seen : List SectorId) → Logged (List SectorId)
  | 0, _, _ => pure []
  | limit + 1, sector, seen =>
    if ¬ sector.isRegular then pure []
    else if header.sectorCount data.size ≤ sector.toNat then throw (.table (.difatBeyondEnd sector))
    else if sector ∈ seen then do
      Logged.note (.difatLoop sector)
      pure []
    else
      match readSector data header sector with
      | .error fault => throw (.table fault)
      | .ok bytes => do
        let listed := (bytes.words32.take (perDifatSector header)).takeWhile SectorId.isRegular
        let next := (bytes.u32At? (4 * perDifatSector header)).getD SectorId.endOfChain
        let later ← difatLists data header limit next (sector :: seen)
        return listed ++ later

/-- The words of sectors, one sector behind the other. -/
def wordsOf (data : Bytes) (header : Header) : List SectorId → Except TableFault (List UInt32)
  | [] => .ok []
  | id :: rest => do
    let bytes ← readSector data header id
    let later ← wordsOf data header rest
    return bytes.words32 ++ later

/-- Loads the table of a file. -/
def load (data : Bytes) (header : Header) : Logged SectorTable := do
  let sectors := header.sectorCount data.size
  let limit := min header.difatSectors.toNat sectors
  let difat ← difatLists data header limit header.firstDifatSector []
  let listed := header.difat.toList.takeWhile SectorId.isRegular ++ difat
  if sectors < listed.length then Logged.note (.difatTooLong listed.length sectors)
  let fatSectors := listed.take sectors
  if fatSectors.length ≠ header.fatSectors.toNat then
    Logged.note (.fatCount header.fatSectors fatSectors.length)
  match wordsOf data header fatSectors with
  | .error fault => throw (.table fault)
  | .ok fat => do
    Logged.note (.fatLoaded fatSectors.length fat.length)
    return ⟨fatSectors, fat.toArray⟩

/-- The chain from `sector` on: it ends in front of a mark, behind a number that is not in the table,
and after `limit` sectors. -/
def follow (fat : Array SectorId) : (limit : Nat) → (sector : SectorId) → List SectorId
  | 0, _ => []
  | limit + 1, sector =>
    if sector.isRegular then
      sector :: match fat[sector.toNat]? with
        | some next => follow fat limit next
        | none => []
    else []

/-- The chain from `start` on. One sector more than the table has entries is enough for any chain that
ends. -/
def chain (t : SectorTable) (start : SectorId) : List SectorId := follow t.fat (t.fat.size + 1) start

/-- What is shown of the table below its title. -/
def chainLines (t : SectorTable) (header : Header) : List String :=
  [s!"FAT sectors: {SectorId.listText t.fatSectors}",
    s!"Directory sector chain: {SectorId.listText (t.chain header.firstDirectorySector)}",
    s!"Mini FAT sector chain: {SectorId.listText (t.chain header.firstMiniFatSector)}"]

/-- The title above sector chains. -/
def title : String := "Sector Chains"

/-- Shows the sectors of the table and the chains of the directory and the mini FAT. -/
def showChains (t : SectorTable) (header : Header) : Report Unit := do
  Report.section title
  Report.lines (t.chainLines header)

theorem length_follow_le (fat : Array SectorId) (limit : Nat) (sector : SectorId) :
    (follow fat limit sector).length ≤ limit := by
  induction limit generalizing sector with
  | zero => simp [follow]
  | succ n ih =>
    simp only [follow]
    split
    · split
      · simpa using ih _
      · simp
    · simp

end SectorTable

end DeckDump.Compound
