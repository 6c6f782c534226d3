import DeckDump.Guid

/-!
# Reading and writing words

A word is read at an offset iff the bytes there are the bytes of the word
(`u16At?_eq_some_iff`, `u32At?_eq_some_iff`), and so is an identifier (`guidAt?_eq_some_iff`). A stretch
of bytes is cut at any offset inside it (`toList_extract_split`), two are the same iff all their bytes
are (`extract_eq_iff`), and the same bytes at two places have the same parts (`extract_congr`). A word
inside a stretch is that of the whole (`u32At?_extract`), and the words of a string are those at its
even places (`getElem?_words32`).
-/

namespace DeckDump

theorem word16_eq_iff (lo hi : UInt8) (w : UInt16) : word16 lo hi = w ↔ [lo, hi] = bytesOf16 w := by
  have hl := lo.toNat_lt
  have hh := hi.toNat_lt
  have hw := w.toNat_lt
  simp only [word16, bytesOf16, List.cons.injEq, and_true, ← UInt16.toNat_inj, ← UInt8.toNat_inj, UInt16.toNat_ofNat',
    UInt8.toNat_ofNat']
  omega

theorem word32_eq_iff (lo hi : UInt16) (w : UInt32) :
    word32 lo hi = w ↔ bytesOf16 lo ++ bytesOf16 hi = bytesOf32 w := by
  have hl := lo.toNat_lt
  have hh := hi.toNat_lt
  have hw := w.toNat_lt
  simp only [word32, bytesOf32, bytesOf16, List.cons_append, List.nil_append, List.cons.injEq, and_true,
    ← UInt32.toNat_inj, ← UInt8.toNat_inj, UInt32.toNat_ofNat', UInt16.toNat_ofNat', UInt8.toNat_ofNat']
  omega

theorem eq_some_getD {α : Type} {o : Option α} (there : o.isSome = true) (other : α) : o = some (o.getD other) := by
  obtain ⟨a, rfl⟩ := Option.isSome_iff_exists.1 there
  rfl

theorem length_bytesOf16 (w : UInt16) : (bytesOf16 w).length = 2 := rfl

theorem length_bytesOf32 (w : UInt32) : (bytesOf32 w).length = 4 := rfl

namespace Bytes

theorem toList_extract_split (b : Bytes) {i j k : Nat} (hij : i ≤ j) (hjk : j ≤ k) :
    (b.extract i k).toList = (b.extract i j).toList ++ (b.extract j k).toList := by
  rw [← Array.toList_append, Array.extract_append_extract, Nat.min_eq_left hij, Nat.max_eq_right hjk]

/-- Parts of one length that follow each other from `start` on are the bytes from there on. -/
theorem flatMap_extract (b : Bytes) (start n k : Nat) :
    ((List.range k).flatMap fun i => (b.extract (start + i * n) (start + i * n + n)).toList) =
      (b.extract start (start + k * n)).toList := by
  induction k with
  | zero => rw [Nat.zero_mul, Nat.add_zero, Array.extract_empty_of_stop_le_start (Nat.le_refl start)]; rfl
  | succ k ih =>
    rw [List.range_succ, List.flatMap_append, ih, List.flatMap_singleton, Nat.succ_mul, ← Nat.add_assoc]
    exact (b.toList_extract_split (Nat.le_add_right _ _) (Nat.le_add_right _ _)).symm

theorem length_toList_extract (b : Bytes) {i k : Nat} (h : k ≤ b.size) : (b.extract i k).toList.length = k - i := by
  rw [Array.length_toList, Array.size_extract, Nat.min_eq_left h]

/-- The same bytes at two places have the same parts. -/
theorem extract_congr {b b' : Bytes} {start stop d i j : Nat}
    (same : b'.extract (start + d) (stop + d) = b.extract start stop) (first : start ≤ i) (ordered : i ≤ j)
    (last : j ≤ stop) : b'.extract (i + d) (j + d) = b.extract i j := by
  have part (c : Bytes) (e : Nat) :
      c.extract (i + e) (j + e) = (c.extract (start + e) (stop + e)).extract (i - start) (j - start) := by
    rw [Array.extract_extract, show start + e + (i - start) = i + e by omega,
      show min (start + e + (j - start)) (stop + e) = j + e by omega]
  rw [part b' d, same]
  exact (part b 0).symm

theorem toList_extract_two (b : Bytes) {i : Nat} (h : i + 1 < b.size) :
    (b.extract i (i + 2)).toList = [b[i], b[i + 1]] := by
  show (b.extract i (i + 1 + 1)).toList = _
  rw [Array.extract_succ_right (by omega) h, Array.extract_succ_right (by omega) (Nat.lt_of_succ_lt h),
    Array.extract_empty_of_stop_le_start (Nat.le_refl i)]
  rfl

theorem u16At?_eq_some_iff (b : Bytes) (i : Nat) (w : UInt16) :
    b.u16At? i = some w ↔ (b.extract i (i + 2)).toList = bytesOf16 w := by
  by_cases h : i + 1 < b.size
  · rw [toList_extract_two b h, ← word16_eq_iff]
    simp [u16At?, h, Nat.lt_of_succ_lt h]
  · -- a word needs two bytes on either side
    refine iff_of_false (fun e => ?_) fun e => ?_
    · have := (u16At?_isSome b i).1 (by rw [e]; rfl)
      omega
    · have := congrArg List.length e
      simp only [Array.length_toList, Array.size_extract, length_bytesOf16] at this
      omega

theorem u32At?_eq_some_iff (b : Bytes) (i : Nat) (w : UInt32) :
    b.u32At? i = some w ↔ (b.extract i (i + 4)).toList = bytesOf32 w := by
  rw [toList_extract_split b (Nat.le_add_right i 2) (by omega)]
  constructor
  · intro h
    simp only [u32At?, Option.bind_eq_bind, Option.bind_eq_some_iff, Option.pure_def, Option.some.injEq] at h
    obtain ⟨lo, hlo, hi, hhi, hw⟩ := h
    rw [(u16At?_eq_some_iff b i lo).1 hlo, (u16At?_eq_some_iff b (i + 2) hi).1 hhi]
    exact (word32_eq_iff lo hi w).1 hw
  · intro h
    have size : i + 4 ≤ b.size := by
      have := congrArg List.length h
      simp only [List.length_append, Array.length_toList, Array.size_extract, length_bytesOf32] at this
      omega
    obtain ⟨lo, hlo⟩ := Option.isSome_iff_exists.1 ((u16At?_isSome b i).2 (by omega))
    obtain ⟨hi, hhi⟩ := Option.isSome_iff_exists.1 ((u16At?_isSome b (i + 2)).2 (by omega))
    rw [(u16At?_eq_some_iff b i lo).1 hlo, (u16At?_eq_some_iff b (i + 2) hi).1 hhi, ← word32_eq_iff] at h
    simp [u32At?, hlo, hhi, h]

theorem guidAt?_eq_some_iff (b : Bytes) (i : Nat) (g : Guid) :
    b.guidAt? i = some g ↔ (b.extract i (i + 16)).toList = g.toList := by
  rw [← Vector.toList_toArray, Array.toList_inj, guidAt?]
  split
  · rw [Option.some.injEq, ← Vector.toArray_inj]
  · next short =>
    refine iff_of_false (Option.some_ne_none g).symm fun same => short ?_
    rw [same, g.size_toArray]

theorem getElem?_extract_of_lt (b : Bytes) {start stop i : Nat} (inside : start + i < stop) :
    (b.extract start stop)[i]? = b[start + i]? := by
  rw [Array.getElem?_extract]
  by_cases last : start + i < b.size
  · rw [if_pos (by omega)]
  · rw [if_neg (by omega), Array.getElem?_eq_none (by omega)]

/-- Two strings have the same stretch iff they have the same bytes there. -/
theorem extract_eq_iff {b b' : Bytes} {start stop : Nat} :
    b.extract start stop = b'.extract start stop ↔ ∀ i, start ≤ i → i < stop → b[i]? = b'[i]? := by
  constructor
  · intro same i first last
    have there : (b.extract start stop)[i - start]? = (b'.extract start stop)[i - start]? := by rw [same]
    rwa [getElem?_extract_of_lt b (by omega), getElem?_extract_of_lt b' (by omega), Nat.add_sub_of_le first] at there
  · refine fun same => Array.ext_getElem? fun i => ?_
    by_cases inside : start + i < stop
    · rw [getElem?_extract_of_lt b inside, getElem?_extract_of_lt b' inside]
      exact same _ (Nat.le_add_right start i) inside
    · rw [Array.getElem?_eq_none (by rw [Array.size_extract]; omega),
        Array.getElem?_eq_none (by rw [Array.size_extract]; omega)]

/-- A word inside a stretch of bytes is that of the whole. -/
theorem u16At?_extract (b : Bytes) {start stop i : Nat} (inside : start + i + 2 ≤ stop) :
    u16At? (b.extract start stop) i = b.u16At? (start + i) := by
  rw [u16At?, u16At?, getElem?_extract_of_lt b (by omega), getElem?_extract_of_lt b (by omega), Nat.add_assoc]

theorem u32At?_extract (b : Bytes) {start stop i : Nat} (inside : start + i + 4 ≤ stop) :
    u32At? (b.extract start stop) i = b.u32At? (start + i) := by
  rw [u32At?, u32At?, u16At?_extract b (by omega), u16At?_extract b (by omega), Nat.add_assoc]

theorem u64At?_extract (b : Bytes) {start stop i : Nat} (inside : start + i + 8 ≤ stop) :
    u64At? (b.extract start stop) i = b.u64At? (start + i) := by
  rw [u64At?, u64At?, u32At?_extract b (by omega), u32At?_extract b (by omega), Nat.add_assoc]

theorem guidAt?_extract (b : Bytes) {start stop i : Nat} (inside : start + i + 16 ≤ stop) :
    guidAt? (b.extract start stop) i = b.guidAt? (start + i) := by
  have same : (b.extract start stop).extract i (i + 16) = b.extract (start + i) (start + i + 16) := by
    rw [Array.extract_extract, Nat.min_eq_left (by omega), Nat.add_assoc]
  simp only [guidAt?, same]

/-- Of words of one width that are read one behind the other, each is the one at its place. -/
theorem getElem?_consecutive {α : Type} {read : Nat → Option α} {size width : Nat} (wide : 0 < width)
    (there : ∀ i, (read i).isSome = true ↔ i + width ≤ size) (other : α) (k : Nat) :
    ((List.range (size / width)).map fun i => (read (i * width)).getD other)[k]? = read (k * width) := by
  have place : k < size / width ↔ k * width + width ≤ size := by
    rw [← Nat.succ_mul]
    exact Nat.le_div_iff_mul_le wide
  rw [List.getElem?_map]
  by_cases inside : k < size / width
  · obtain ⟨w, found⟩ := Option.isSome_iff_exists.1 ((there _).2 (place.1 inside))
    rw [List.getElem?_range inside, Option.map_some, found, Option.getD_some]
  · have missing := mt (there (k * width)).1 (mt place.2 inside)
    rw [List.getElem?_eq_none (by rw [List.length_range]; omega), Option.not_isSome_iff_eq_none.1 missing]
    rfl

theorem getElem?_words16 (b : Bytes) (k : Nat) : b.words16[k]? = b.u16At? (k * 2) :=
  getElem?_consecutive (by decide) b.u16At?_isSome 0 k

theorem getElem?_words32 (b : Bytes) (k : Nat) : b.words32[k]? = b.u32At? (k * 4) :=
  getElem?_consecutive (by decide) b.u32At?_isSome 0 k

end Bytes

end DeckDump
