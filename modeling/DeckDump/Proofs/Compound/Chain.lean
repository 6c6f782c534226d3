import DeckDump.Compound.SectorTable
import Mathlib.Data.Fintype.Pigeonhole
import Mathlib.Data.List.Nodup

/-!
# Sector chains

The table gives each number its successor, and the way along it (`walk`) may end or not. A chain is
cut by its length alone, one number more than the table has entries, and that is never too early:

* `getElem?_chain`: a chain is the way as far as that;
* `walk_ne_none_of_repeat`: a way that comes to a number twice never ends;
* `exists_repeat`: a way of more steps than the table has entries comes to a number twice;
* `chain_eq_walk`: so a way that ends is the chain, and of one that never ends the chain is the first
  part, which repeats a number.
-/

namespace DeckDump.Compound.SectorTable

/-- A number that the way comes to; it ends in front of a number above 0xFFFFFFFA. -/
def named (id : SectorId) : Option SectorId := if 0xFFFFFFFA < id then none else some id

/-- The number behind `id` on the way: the one at its place in the table. The way ends behind a number
that is no place of the table. -/
def next? (t : SectorTable) (id : SectorId) : Option SectorId := (t.fat[id.toNat]?).bind named

/-- Number `i` on the way from `start` on, if the way is that long. -/
def walk (t : SectorTable) (start : SectorId) : (i : Nat) → Option SectorId
  | 0 => named start
  | i + 1 => (t.walk start i).bind t.next?

theorem named_eq (id : SectorId) : named id = if id.isRegular then some id else none := by
  have above : 0xFFFFFFFA < id ↔ ¬ id ≤ SectorId.maxRegular := UInt32.not_le.symm
  simp only [named, SectorId.isRegular, decide_eq_true_eq, above, ite_not]

section

variable {t : SectorTable} {start : SectorId}

/-- From a number that names a sector the way goes on with the way from its successor. -/
theorem walk_succ_of_regular (regular : start.isRegular = true) (i : Nat) :
    t.walk start (i + 1) = (t.fat[start.toNat]?).bind fun next => t.walk next i := by
  induction i with
  | zero =>
    have first : t.walk start 0 = some start := (named_eq start).trans (if_pos regular)
    rw [walk, first]
    rfl
  | succ i ih =>
    rw [walk, ih, Option.bind_assoc]
    rfl

theorem getElem?_follow (limit i : Nat) :
    (follow t.fat limit start)[i]? = if i < limit then t.walk start i else none := by
  induction limit generalizing start i with
  | zero => rfl
  | succ limit ih =>
    have first := named_eq start
    rw [follow]
    by_cases regular : start.isRegular
    · rw [if_pos regular] at first ⊢
      cases i with
      | zero => exact first.symm
      | succ i =>
        rw [List.getElem?_cons_succ, walk_succ_of_regular regular]
        simp only [Nat.succ_lt_succ_iff]
        cases t.fat[start.toNat]? with
        | some next => exact ih i
        | none => exact (ite_self none).symm
    · -- the way ends in front of its first number
      rw [if_neg regular] at first ⊢
      have ended : t.walk start i = none := by
        induction i with
        | zero => exact first
        | succ i ih => rw [walk, ih]; rfl
      rw [ended, ite_self, List.getElem?_nil]

/-- A chain is the way from its start, as far as one number more than the table has entries. -/
theorem getElem?_chain (i : Nat) : (t.chain start)[i]? = if i < t.fat.size + 1 then t.walk start i else none :=
  getElem?_follow _ i

/-- The way goes on alike behind equal numbers. -/
theorem walk_add_congr {a b : Nat} (same : t.walk start a = t.walk start b) (k : Nat) :
    t.walk start (a + k) = t.walk start (b + k) := by
  induction k with
  | zero => exact same
  | succ k ih => rw [← Nat.add_assoc, ← Nat.add_assoc, walk, ih, walk]

/-- A way that has ended does not go on. -/
theorem walk_eq_none_of_le {i j : Nat} (le : i ≤ j) (ended : t.walk start i = none) : t.walk start j = none := by
  induction j, le using Nat.le_induction with
  | base => exact ended
  | succ j _ ih => rw [walk, ih]; rfl

/-- A way that comes to a number twice never ends. -/
theorem walk_ne_none_of_repeat {a b : Nat} (lt : a < b) (same : t.walk start a = t.walk start b)
    (there : t.walk start a ≠ none) (n : Nat) : t.walk start n ≠ none := by
  intro ended
  -- each round of `b - a` numbers comes back to number `a`
  have round (n : Nat) : t.walk start (a + n * (b - a)) = t.walk start a := by
    induction n with
    | zero => rw [Nat.zero_mul, Nat.add_zero]
    | succ n ih =>
      have split : a + (n + 1) * (b - a) = b + n * (b - a) := by
        rw [Nat.succ_mul]
        omega
      rw [split, ← walk_add_congr same, ih]
  have far : n ≤ a + n * (b - a) := by
    have := Nat.le_mul_of_pos_right n (show 0 < b - a by omega)
    omega
  exact there ((round n).symm.trans (walk_eq_none_of_le far ended))

/-- The way goes on only behind numbers that the table has an entry for. -/
theorem exists_place {i : Nat} (goes_on : t.walk start (i + 1) ≠ none) :
    ∃ id, t.walk start i = some id ∧ id.toNat < t.fat.size := by
  cases here : t.walk start i with
  | none => exact absurd (by rw [walk, here]; rfl) goes_on
  | some id =>
    refine ⟨id, rfl, Nat.lt_of_not_le fun outside => goes_on ?_⟩
    rw [walk, here, Option.bind_some, next?, Array.getElem?_eq_none outside]
    rfl

/-- A way of more steps than the table has entries comes to a number twice. -/
theorem exists_repeat (long : t.walk start (t.fat.size + 1) ≠ none) :
    ∃ a b, a < b ∧ b ≤ t.fat.size ∧ t.walk start a = t.walk start b ∧ t.walk start a ≠ none := by
  have places (i : Fin (t.fat.size + 1)) : ∃ id, t.walk start i = some id ∧ id.toNat < t.fat.size :=
    exists_place fun ended => long (walk_eq_none_of_le (by omega) ended)
  choose id at_id inside using places
  obtain ⟨a, b, distinct, same⟩ :=
    Fintype.exists_ne_map_eq_of_card_lt (fun i => (⟨(id i).toNat, inside i⟩ : Fin t.fat.size)) (by simp)
  have equal : id a = id b := UInt32.toNat_inj.1 (Fin.mk.inj same)
  have walks : t.walk start a = t.walk start b := by rw [at_id, at_id, equal]
  have there (i : Fin (t.fat.size + 1)) : t.walk start i ≠ none := by
    rw [at_id]
    exact Option.some_ne_none _
  obtain lt | lt := Nat.lt_or_gt_of_ne (Fin.val_ne_of_ne distinct)
  · exact ⟨a, b, lt, by omega, walks, there a⟩
  · exact ⟨b, a, lt, by omega, walks.symm, there b⟩

end

/-- A way that ends is the whole chain, which repeats no number. Of a way that never ends the chain is the
first part, one number more than the table has entries, and that repeats a number. -/
theorem chain_eq_walk (t : SectorTable) (start : SectorId) :
    ((∃ n, t.walk start n = none) →
      (∀ i, (t.chain start)[i]? = t.walk start i) ∧ (t.chain start).Nodup ∧
        (t.chain start).length ≤ t.fat.size + 1) ∧
    ((∀ n, t.walk start n ≠ none) →
      (t.chain start).length = t.fat.size + 1 ∧
        (∀ i < t.fat.size + 1, (t.chain start)[i]? = t.walk start i) ∧ ¬ (t.chain start).Nodup) := by
  have short : (t.chain start).length ≤ t.fat.size + 1 := length_follow_le _ _ _
  refine ⟨fun ⟨n, ended⟩ => ?_, fun endless => ?_⟩
  · have within : t.walk start (t.fat.size + 1) = none := by
      by_contra long
      obtain ⟨a, b, lt, -, same, there⟩ := exists_repeat long
      exact walk_ne_none_of_repeat lt same there n ended
    have whole (i : Nat) : (t.chain start)[i]? = t.walk start i := by
      rw [getElem?_chain]
      by_cases inside : i < t.fat.size + 1
      · rw [if_pos inside]
      · rw [if_neg inside, walk_eq_none_of_le (by omega) within]
    refine ⟨whole, List.nodup_iff_getElem?_ne_getElem?.2 fun i j lt inside same => ?_, short⟩
    have there : t.walk start i ≠ none := by
      rw [← whole, List.getElem?_eq_getElem (by omega)]
      exact Option.some_ne_none _
    rw [whole, whole] at same
    exact walk_ne_none_of_repeat lt same there n ended
  · have part (i : Nat) (inside : i < t.fat.size + 1) : (t.chain start)[i]? = t.walk start i := by
      rw [getElem?_chain, if_pos inside]
    have long : t.fat.size < (t.chain start).length := by
      by_contra ends
      have last := endless t.fat.size
      rw [← part _ (by omega), List.getElem?_eq_none (by omega)] at last
      exact last rfl
    refine ⟨by omega, part, fun distinct => ?_⟩
    obtain ⟨a, b, lt, inside, same, -⟩ := exists_repeat (endless _)
    rw [← part a (by omega), ← part b (by omega)] at same
    exact List.nodup_iff_getElem?_ne_getElem?.1 distinct a b lt (by omega) same

/-- A chain through every sector of a table, which ends behind a number outside of it, and one that goes
round two sectors. -/
theorem chain_eq_walk_full :
    let full : SectorTable := ⟨[], #[1, 2, 9]⟩
    let round : SectorTable := ⟨[], #[1, 0]⟩
    full.walk 0 4 = none ∧ full.chain 0 = [0, 1, 2, 9] ∧ (full.chain 0).Nodup ∧
      (∀ n, round.walk 0 n ≠ none) ∧ round.chain 0 = [0, 1, 0] ∧ ¬ (round.chain 0).Nodup := by
  intro full round
  have ended : full.walk 0 4 = none := by decide
  have endless : ∀ n, round.walk 0 n ≠ none := walk_ne_none_of_repeat (show 0 < 2 by decide) (by decide) (by decide)
  exact ⟨ended, by decide, ((chain_eq_walk full 0).1 ⟨4, ended⟩).2.1, endless, by decide,
    ((chain_eq_walk round 0).2 endless).2.2⟩

end DeckDump.Compound.SectorTable
