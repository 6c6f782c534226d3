import DeckDump.Proofs.Bytes

/-!
# Bytes that stand at an offset

What is read of bytes that were written there:

* `HoldsAt`: the bytes `bs` stand at `i`;
* `holdsAt_append`: one part stands behind the other;
* `HoldsAt.flatMap`: each part of a list stands behind those in front of it;
* `HoldsAt.u16At?` and its like, `HoldsAt.slice?`, `HoldsAt.words32`: what is read is what stands there;
* `words16_append`: the units in front of any bytes;
* `HoldsAt.placeTable`: a table of places says where the parts behind it stand.
-/

namespace DeckDump

/-- A word is put together again from its halves. -/
theorem word64_halves (w : UInt64) :
    word64 (UInt32.ofNat w.toNat) (UInt32.ofNat (w.toNat / 0x100000000)) = w := by
  have hw := w.toNat_lt
  rw [← UInt64.toNat_inj, word64, UInt64.toNat_ofNat', UInt32.toNat_ofNat', UInt32.toNat_ofNat']
  omega

/-- A list cut in front of one of its parts and behind it. -/
theorem flatMap_split {α β : Type} {xs : List α} {j : Nat} {x : α} (at_j : xs[j]? = some x) (f : α → List β) :
    xs.flatMap f = (xs.take j).flatMap f ++ f x ++ (xs.drop (j + 1)).flatMap f := by
  obtain ⟨inside, rfl⟩ := List.getElem?_eq_some_iff.1 at_j
  rw [List.append_assoc, ← List.flatMap_cons, List.getElem_cons_drop, ← List.flatMap_append, List.take_append_drop]

/-- The parts of a list keep their order, and what is in them. -/
theorem getElem?_flatMap {α β : Type} {xs : List α} {f : α → List β} {j k : Nat} {x : α} {y : β}
    (at_j : xs[j]? = some x) (at_k : (f x)[k]? = some y) :
    (xs.flatMap f)[((xs.take j).flatMap f).length + k]? = some y := by
  have inside := (List.getElem?_eq_some_iff.1 at_k).1
  rw [flatMap_split at_j f, List.append_assoc, List.getElem?_append_right (Nat.le_add_right _ k),
    Nat.add_sub_cancel_left, List.getElem?_append_left inside, at_k]

theorem length_flatMap_of_length {α β : Type} {f : α → List β} {n : Nat} (same : ∀ x, (f x).length = n)
    (xs : List α) : (xs.flatMap f).length = xs.length * n := by
  induction xs with
  | nil => rw [List.length_nil, Nat.zero_mul]; rfl
  | cons x xs ih => rw [List.flatMap_cons, List.length_append, same, ih, List.length_cons, Nat.succ_mul, Nat.add_comm]

theorem length_flatMap_take {α β : Type} {f : α → List β} {n k : Nat} {parts : List α} {x : α}
    (same : ∀ x, (f x).length = n) (at_k : parts[k]? = some x) : ((parts.take k).flatMap f).length = k * n := by
  have inside := (List.getElem?_eq_some_iff.1 at_k).1
  rw [length_flatMap_of_length same, List.length_take, Nat.min_eq_left (Nat.le_of_lt inside)]

/-- Of parts of one length, the number of a place says which part it is in, and where in it. -/
theorem getElem?_flatMap_of_length {α β : Type} {xs : List α} {f : α → List β} {n i : Nat} {x : α} {y : β}
    (same : ∀ x, (f x).length = n) (part : xs[i / n]? = some x) (within : (f x)[i % n]? = some y) :
    (xs.flatMap f)[i]? = some y := by
  have found := getElem?_flatMap part within
  rwa [length_flatMap_take same part, Nat.div_add_mod'] at found

namespace Bytes

/-- Whether the bytes `bs` stand at `i`. -/
def HoldsAt (b : Bytes) (i : Nat) (bs : List UInt8) : Prop := (b.extract i (i + bs.length)).toList = bs

variable {b : Bytes} {i : Nat} {bs xs ys : List UInt8}

theorem HoldsAt.le_size (h : HoldsAt b i bs) (some_bytes : bs ≠ []) : i + bs.length ≤ b.size := by
  have length := congrArg List.length h
  have pos := List.length_pos_iff.2 some_bytes
  rw [Array.length_toList, Array.size_extract] at length
  omega

theorem holdsAt_append : HoldsAt b i (xs ++ ys) ↔ HoldsAt b i xs ∧ HoldsAt b (i + xs.length) ys := by
  have cut := b.toList_extract_split (Nat.le_add_right i xs.length) (Nat.le_add_right (i + xs.length) ys.length)
  rw [HoldsAt, HoldsAt, HoldsAt, List.length_append, ← Nat.add_assoc, cut]
  refine ⟨fun h => ?_, fun ⟨first, second⟩ => by rw [first, second]⟩
  -- neither part is longer than asked for, and together they are not shorter
  have length := congrArg List.length h
  simp only [List.length_append, Array.length_toList, Array.size_extract] at length
  exact List.append_inj h (by rw [Array.length_toList, Array.size_extract]; omega)

theorem holdsAt_whole (bs : List UInt8) : HoldsAt bs.toArray 0 bs := by
  rw [HoldsAt, Nat.zero_add, ← List.size_toArray, Array.extract_size]

/-- Each part of a list stands behind those in front of it. -/
theorem HoldsAt.flatMap {α : Type} {parts : List α} {f : α → List UInt8} (h : HoldsAt b i (parts.flatMap f))
    {j : Nat} {x : α} (at_j : parts[j]? = some x) : HoldsAt b (i + ((parts.take j).flatMap f).length) (f x) := by
  rw [flatMap_split at_j f] at h
  exact (holdsAt_append.1 (holdsAt_append.1 h).1).2

theorem HoldsAt.u16At? {w : UInt16} (h : HoldsAt b i (bytesOf16 w)) : b.u16At? i = some w :=
  (u16At?_eq_some_iff b i w).2 h

theorem HoldsAt.u32At? {w : UInt32} (h : HoldsAt b i (bytesOf32 w)) : b.u32At? i = some w :=
  (u32At?_eq_some_iff b i w).2 h

theorem HoldsAt.u64At? {w : UInt64} (h : HoldsAt b i (bytesOf64 w)) : b.u64At? i = some w := by
  obtain ⟨low, high⟩ := holdsAt_append.1 h
  rw [length_bytesOf32] at high
  simp only [Bytes.u64At?, low.u32At?, high.u32At?, Option.bind_eq_bind, Option.bind_some, Option.pure_def, word64_halves]

theorem HoldsAt.guidAt? {g : Guid} (h : HoldsAt b i g.toList) : b.guidAt? i = some g := by
  have length : g.toList.length = 16 := g.length_toList
  rw [HoldsAt, length] at h
  exact (guidAt?_eq_some_iff b i g).2 h

theorem HoldsAt.slice? (h : HoldsAt b i bs) (inside : i + bs.length ≤ b.size) :
    b.slice? i bs.length = some bs.toArray := by
  rw [Bytes.slice?, if_pos inside]
  exact congrArg some (Array.toList_inj.1 h)

/-- What is read one by one is what stands there one by one. -/
theorem eq_of_reads {α : Type} {words ws : List α} {read : Nat → Option α} {size width : Nat}
    (reads : ∀ k, words[k]? = read (k * width)) (there : ∀ i, (read i).isSome = true ↔ i + width ≤ size)
    (short : size < ws.length * width + width) (found : ∀ k w, ws[k]? = some w → read (k * width) = some w) :
    words = ws := by
  refine List.ext_getElem? fun k => ?_
  rw [reads]
  by_cases inside : k < ws.length
  · rw [List.getElem?_eq_getElem inside]
    exact found k _ (List.getElem?_eq_getElem inside)
  · have behind := Nat.mul_le_mul_right width (Nat.le_of_not_lt inside)
    rw [List.getElem?_eq_none (Nat.le_of_not_lt inside)]
    exact Option.not_isSome_iff_eq_none.1 (mt (there _).1 (by omega))

/-- Words that stand one behind the other are read one by one, up to the last one of a stretch. -/
theorem HoldsAt.words32 {ws : List UInt32} (h : HoldsAt b i (ws.flatMap bytesOf32)) {stop : Nat}
    (within : i + ws.length * 4 ≤ stop) (short : min stop b.size < i + ws.length * 4 + 4) :
    words32 (b.extract i stop) = ws := by
  refine eq_of_reads (getElem?_words32 _) (u32At?_isSome _) ?_ fun k w at_k => ?_
  · rw [Array.size_extract]
    omega
  · have inside := (List.getElem?_eq_some_iff.1 at_k).1
    have word := (h.flatMap at_k).u32At?
    rw [length_flatMap_take length_bytesOf32 at_k] at word
    rw [u32At?_extract b (by omega), word]

theorem words16_cons (lo hi : UInt8) (rest : List UInt8) :
    words16 (lo :: hi :: rest).toArray = word16 lo hi :: words16 rest.toArray := by
  refine List.ext_getElem? fun k => ?_
  rw [getElem?_words16]
  cases k with
  | zero => rfl
  | succ k =>
    rw [List.getElem?_cons_succ, getElem?_words16, Nat.succ_mul]
    simp [u16At?]

/-- Units in front of any bytes are read as they are. -/
theorem words16_append (units : List UInt16) (tail : List UInt8) :
    words16 (units.flatMap bytesOf16 ++ tail).toArray = units ++ words16 tail.toArray := by
  induction units with
  | nil => rfl
  | cons u units ih =>
    have word : word16 (UInt8.ofNat u.toNat) (UInt8.ofNat (u.toNat / 0x100)) = u := (word16_eq_iff _ _ u).2 rfl
    rw [List.flatMap_cons, List.append_assoc, bytesOf16, List.cons_append, List.cons_append, List.nil_append,
      words16_cons, ih, word, List.cons_append]

theorem words16_flatMap (units : List UInt16) : words16 (units.flatMap bytesOf16).toArray = units := by
  have whole := words16_append units []
  rwa [List.append_nil, show words16 #[] = [] from rfl, List.append_nil] at whole

/-- A table of places: behind the key of each part, the place of the part when the first one is at `place`. -/
def placeTable {α : Type} (key part : α → List UInt8) (place : Nat) : List α → List UInt8
  | [] => []
  | x :: xs => key x ++ bytesOf32 (UInt32.ofNat place) ++ placeTable key part (place + (part x).length) xs

section

variable {α : Type} {key part : α → List UInt8} {width place : Nat}

theorem length_placeTable (keys : ∀ x, (key x).length = width) (parts : List α) :
    (placeTable key part place parts).length = parts.length * (width + 4) := by
  induction parts generalizing place with
  | nil => rw [List.length_nil, Nat.zero_mul]; rfl
  | cons x xs ih =>
    rw [placeTable, List.length_append, List.length_append, keys, length_bytesOf32, ih, List.length_cons, Nat.succ_mul]
    omega

/-- An entry of a table of places is a key, and the place behind the parts in front. -/
theorem HoldsAt.placeTable (keys : ∀ x, (key x).length = width) {parts : List α}
    (h : HoldsAt b i (placeTable key part place parts)) {j : Nat} {x : α} (at_j : parts[j]? = some x) :
    HoldsAt b (i + j * (width + 4)) (key x) ∧
      b.u32At? (i + j * (width + 4) + width) =
        some (UInt32.ofNat (place + ((parts.take j).flatMap part).length)) := by
  induction parts generalizing i place j with
  | nil => cases at_j
  | cons y ys ih =>
    rw [Bytes.placeTable, holdsAt_append, holdsAt_append, List.length_append, keys, length_bytesOf32] at h
    obtain ⟨⟨first, where_⟩, rest⟩ := h
    cases j with
    | zero =>
      obtain rfl := Option.some.inj at_j
      exact ⟨by simpa using first, by simpa using where_.u32At?⟩
    | succ j =>
      obtain ⟨found, told⟩ := ih rest at_j
      have behind : i + (width + 4) + j * (width + 4) = i + (j + 1) * (width + 4) := by rw [Nat.succ_mul]; omega
      rw [behind] at found told
      refine ⟨found, ?_⟩
      rw [told, List.take_succ_cons, List.flatMap_cons, List.length_append, Nat.add_assoc]

end

end Bytes

end DeckDump
