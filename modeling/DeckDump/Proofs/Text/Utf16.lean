import DeckDump.Proofs.Encoded
import DeckDump.Record.Text

/-!
# Text in code units

A text is read of the code units in front of the first zero unit. What is lost in reading is only the surrogates
without a partner, and where the reading stops does not depend on whether it looks for a zero unit or for a NUL:

* `encode_decode`: characters that were read are written as the units they were read of, with one replacement
  in the place of each surrogate that is not beside its partner (`aloneAt`, `mended`);
* `decode_encode`: characters that were written are read back;
* `takeWhile_decode`: the characters in front of the first NUL are those of the units in front of the first zero;
* `textOf_keepsUnits`: the text of written bytes, and what the text of any bytes keeps of them;
* `unicode?_eq_textOf`: the text of a record is the text of its bytes, if there is any.
-/

namespace DeckDump

namespace Utf16

theorem toNat_ofNat {n : Nat} (valid : n.isValidChar) : (Char.ofNat n).toNat = n := by
  rw [Char.ofNat, dif_pos valid]
  rfl

theorem isHigh_iff (u : UInt16) : isHigh u = true ↔ 0xD800 ≤ u.toNat ∧ u.toNat < 0xDC00 := by
  simp only [isHigh, Bool.and_eq_true, decide_eq_true_iff, UInt16.le_iff_toNat_le, UInt16.lt_iff_toNat_lt,
    UInt16.reduceToNat]

theorem isLow_iff (u : UInt16) : isLow u = true ↔ 0xDC00 ≤ u.toNat ∧ u.toNat < 0xE000 := by
  simp only [isLow, Bool.and_eq_true, decide_eq_true_iff, UInt16.le_iff_toNat_le, UInt16.lt_iff_toNat_lt,
    UInt16.reduceToNat]

theorem isHigh_of_isLow {u : UInt16} (low : isLow u = true) : isHigh u = false := by
  rw [isLow_iff] at low
  rw [← Bool.not_eq_true, isHigh_iff]
  omega

/-- A unit that is no surrogate is a character. -/
theorem toNat_ofNat_plain {u : UInt16} (high : isHigh u = false) (low : isLow u = false) :
    (Char.ofNat u.toNat).toNat = u.toNat := by
  have bound := u.toNat_lt
  rw [← Bool.not_eq_true, isHigh_iff] at high
  rw [← Bool.not_eq_true, isLow_iff] at low
  exact toNat_ofNat (by rw [Nat.isValidChar]; omega)

theorem toNat_pair {u v : UInt16} (high : isHigh u = true) (low : isLow v = true) :
    (pair u v).toNat = 0x10000 + 0x400 * (u.toNat - 0xD800) + (v.toNat - 0xDC00) := by
  rw [isHigh_iff] at high
  rw [isLow_iff] at low
  exact toNat_ofNat (.inr (by omega))

/-- A unit that is no surrogate is NUL only if it is zero. -/
theorem ofNat_eq_nul_iff {u : UInt16} (high : isHigh u = false) (low : isLow u = false) :
    Char.ofNat u.toNat = '\x00' ↔ u = 0 := by
  refine ⟨fun nul => ?_, fun zero => zero ▸ rfl⟩
  have same := congrArg Char.toNat nul
  rw [toNat_ofNat_plain high low] at same
  exact UInt16.toNat.inj same

/-- A surrogate pair is never NUL. -/
theorem pair_ne_nul {u v : UInt16} (high : isHigh u = true) (low : isLow v = true) : pair u v ≠ '\x00' := by
  intro nul
  have same := congrArg Char.toNat nul
  rw [toNat_pair high low] at same
  have large : '\x00'.toNat < 0x10000 := by decide
  omega

/-! ## Writing what was read -/

theorem encodeChar_plain {u : UInt16} (high : isHigh u = false) (low : isLow u = false) :
    encodeChar (Char.ofNat u.toNat) = [u] := by
  rw [encodeChar, toNat_ofNat_plain high low, if_pos u.toNat_lt, UInt16.ofNat_toNat]

theorem encodeChar_pair {u v : UInt16} (high : isHigh u = true) (low : isLow v = true) :
    encodeChar (pair u v) = [u, v] := by
  have code := toNat_pair high low
  rw [isHigh_iff] at high
  rw [isLow_iff] at low
  rw [encodeChar, code, if_neg (by omega)]
  simp only [List.cons.injEq, and_true, ← UInt16.toNat_inj, UInt16.toNat_ofNat']
  omega

/-- Whether the unit at `i` is a surrogate that is not beside its partner: a high one that no low one follows, or
a low one that follows no high one. -/
def aloneAt (units : List UInt16) (i : Nat) : Bool :=
  units[i]?.any isHigh && !units[i + 1]?.any isLow ||
    units[i]?.any isLow && !(decide (0 < i) && units[i - 1]?.any isHigh)

/-- The units, with the replacement in the place of each surrogate that is not beside its partner. -/
def mended (units : List UInt16) : List UInt16 := units.mapIdx fun i u => if aloneAt units i then 0xFFFD else u

/-- A unit in front counts for those behind it only if it is paired with the first of them. -/
theorem aloneAt_cons_succ {u : UInt16} {rest : List UInt16} (unpaired : (isHigh u && rest[0]?.any isLow) = false)
    (i : Nat) : aloneAt (u :: rest) (i + 1) = aloneAt rest i := by
  cases i with
  | zero =>
    cases high : isHigh u with
    | false => simp [aloneAt, high]
    | true =>
      rw [high, Bool.true_and] at unpaired
      simp [aloneAt, unpaired]
  | succ i => simp [aloneAt]

theorem mended_cons {u : UInt16} {rest : List UInt16} (unpaired : (isHigh u && rest[0]?.any isLow) = false) :
    mended (u :: rest) = (if isHigh u || isLow u then 0xFFFD else u) :: mended rest := by
  have first : aloneAt (u :: rest) 0 = (isHigh u || isLow u) := by
    cases high : isHigh u with
    | false => simp [aloneAt, high]
    | true =>
      rw [high, Bool.true_and] at unpaired
      simp [aloneAt, high, unpaired]
  simp only [mended, List.mapIdx_cons, first, aloneAt_cons_succ unpaired]

theorem mended_pair {u v : UInt16} (high : isHigh u = true) (low : isLow v = true) (rest : List UInt16) :
    mended (u :: v :: rest) = u :: v :: mended rest := by
  have first : aloneAt (u :: v :: rest) 0 = false := by
    have other : isLow u = false := by
      cases low : isLow u with
      | false => rfl
      | true => rw [isHigh_of_isLow low] at high; cases high
    simp [aloneAt, low, other]
  have second : aloneAt (u :: v :: rest) 1 = false := by simp [aloneAt, high, isHigh_of_isLow low]
  have behind (i : Nat) : aloneAt (u :: v :: rest) (i + 2) = aloneAt rest i := by
    have unpaired : (isHigh v && rest[0]?.any isLow) = false := by rw [isHigh_of_isLow low, Bool.false_and]
    rw [← aloneAt_cons_succ unpaired]
    simp [aloneAt]
  simp only [mended, List.mapIdx_cons, first, second, behind, Nat.zero_add, Bool.false_eq_true, if_false]

theorem length_mended (units : List UInt16) : (mended units).length = units.length := List.length_mapIdx

theorem encode_cons (c : Char) (cs : List Char) : encode (c :: cs) = encodeChar c ++ encode cs := List.flatMap_cons

/-- What is read of any units is written as they are, but for surrogates without their partners. -/
theorem encode_decode (units : List UInt16) : encode ((decode units).map (·.getD replacement)) = mended units := by
  have replaced : encodeChar replacement = [0xFFFD] := by decide
  fun_induction decode units with
  | case1 => rfl
  | case2 u surrogate =>
    rw [mended_cons (by simp), if_pos surrogate, List.map_singleton, Option.getD_none, encode_cons, replaced]
    rfl
  | case3 u plain =>
    rw [mended_cons (by simp), if_neg plain, List.map_singleton, Option.getD_some, encode_cons]
    rw [Bool.or_eq_true, not_or, Bool.not_eq_true, Bool.not_eq_true] at plain
    rw [encodeChar_plain plain.1 plain.2]
    rfl
  | case4 u v rest paired ih =>
    rw [Bool.and_eq_true] at paired
    rw [mended_pair paired.1 paired.2, List.map_cons, Option.getD_some, encode_cons,
      encodeChar_pair paired.1 paired.2, ih]
    rfl
  | case5 u v rest alone surrogate ih =>
    rw [mended_cons (by simpa using alone), if_pos surrogate, List.map_cons, Option.getD_none, encode_cons, replaced,
      ih]
    rfl
  | case6 u v rest alone plain ih =>
    rw [mended_cons (by simpa using alone), if_neg plain, List.map_cons, Option.getD_some, encode_cons, ih]
    rw [Bool.or_eq_true, not_or, Bool.not_eq_true, Bool.not_eq_true] at plain
    rw [encodeChar_plain plain.1 plain.2]
    rfl

/-! ## Reading what was written -/

theorem decode_encodeChar (c : Char) (rest : List UInt16) : decode (encodeChar c ++ rest) = some c :: decode rest := by
  have valid : c.toNat.isValidChar := c.valid
  rw [Nat.isValidChar] at valid
  rw [encodeChar]
  by_cases small : c.toNat < 0x10000
  · have code : (UInt16.ofNat c.toNat).toNat = c.toNat := by rw [UInt16.toNat_ofNat', Nat.mod_eq_of_lt small]
    have high : isHigh (UInt16.ofNat c.toNat) = false := by
      rw [← Bool.not_eq_true, isHigh_iff, code]
      omega
    have low : isLow (UInt16.ofNat c.toNat) = false := by
      rw [← Bool.not_eq_true, isLow_iff, code]
      omega
    rw [if_pos small, List.singleton_append, decode_cons_plain _ _ high low, code, Char.ofNat_toNat]
  · rw [if_neg small, List.cons_append, List.singleton_append]
    generalize first : UInt16.ofNat (0xD800 + (c.toNat - 0x10000) / 0x400) = u
    generalize second : UInt16.ofNat (0xDC00 + (c.toNat - 0x10000) % 0x400) = v
    have firstCode : u.toNat = 0xD800 + (c.toNat - 0x10000) / 0x400 := by
      rw [← first, UInt16.toNat_ofNat']
      omega
    have secondCode : v.toNat = 0xDC00 + (c.toNat - 0x10000) % 0x400 := by
      rw [← second, UInt16.toNat_ofNat']
      omega
    have high : isHigh u = true := by
      rw [isHigh_iff]
      omega
    have low : isLow v = true := by
      rw [isLow_iff]
      omega
    have code : (pair u v).toNat = c.toNat := by
      rw [toNat_pair high low]
      omega
    rw [decode, high, low, Bool.and_true, if_pos rfl, Char.toNat_inj.1 code]

/-- Characters that were written are read back. -/
theorem decode_encode (cs : List Char) : decode (encode cs) = cs.map some := by
  induction cs with
  | nil => rfl
  | cons c cs ih => rw [encode_cons, decode_encodeChar, ih, List.map_cons]

theorem lossy_encode (s : String) : lossy (encode s.toList) = s := by
  rw [lossy, decode_encode, List.map_map]
  simp [Function.comp_def]

/-- Only NUL is written with a zero unit. -/
theorem zero_not_mem_encodeChar {c : Char} (shown : c ≠ '\x00') : 0 ∉ encodeChar c := by
  have positive : c.toNat ≠ 0 := fun zero => shown (Char.toNat_inj.1 zero)
  have valid : c.toNat.isValidChar := c.valid
  rw [Nat.isValidChar] at valid
  rw [encodeChar]
  split <;> simp only [List.mem_cons, List.not_mem_nil, or_false, ← UInt16.toNat_inj, UInt16.toNat_ofNat',
    UInt16.reduceToNat] <;> omega

theorem takeWhile_encode {cs : List Char} (free : '\x00' ∉ cs) (rest : List UInt16) :
    (encode cs ++ rest).takeWhile (· ≠ 0) = encode cs ++ rest.takeWhile (· ≠ 0) := by
  refine List.takeWhile_append_of_pos fun u mem => ?_
  obtain ⟨c, inside, mem⟩ := List.mem_flatMap.1 mem
  have shown : c ≠ '\x00' := fun nul => free (nul ▸ inside)
  rw [decide_eq_true_iff]
  rintro rfl
  exact zero_not_mem_encodeChar shown mem

/-! ## Texts -/

/-- The characters in front of the first NUL are those of the units in front of the first zero. -/
theorem takeWhile_decode (units : List UInt16) :
    (decode units).takeWhile (· ≠ some '\x00') = decode (units.takeWhile (· ≠ 0)) := by
  have nonzero {u : UInt16} (surrogate : (isHigh u || isLow u) = true) : u ≠ 0 := by
    rintro rfl
    cases surrogate
  fun_induction decode units with
  | case1 => rfl
  | case2 u surrogate =>
    simp [nonzero surrogate, decode, surrogate]
  | case3 u plain =>
    rw [Bool.or_eq_true, not_or, Bool.not_eq_true, Bool.not_eq_true] at plain
    by_cases zero : u = 0
    · rw [zero]
      rfl
    · have shown := mt (ofNat_eq_nul_iff plain.1 plain.2).1 zero
      simp [zero, decode, plain, shown]
  | case4 u v rest paired ih =>
    rw [Bool.and_eq_true] at paired
    have first : u ≠ 0 := nonzero (by simp [paired])
    have second : v ≠ 0 := nonzero (by simp [paired])
    simp only [ne_eq, decide_not] at ih
    simp [first, second, decode, paired, pair_ne_nul paired.1 paired.2, ih]
  | case5 u v rest alone surrogate ih =>
    -- what is kept of the rest still does not start with the partner of the surrogate
    have kept : decode (u :: (v :: rest).takeWhile (· ≠ 0)) = none :: decode ((v :: rest).takeWhile (· ≠ 0)) := by
      by_cases zero : v = 0
      · simp [zero, decode, surrogate]
      · rw [List.takeWhile_cons_of_pos (by simpa using zero), decode, if_neg alone, if_pos surrogate]
    rw [List.takeWhile_cons_of_pos rfl, List.takeWhile_cons_of_pos (by simpa using nonzero surrogate), kept, ih]
  | case6 u v rest alone plain ih =>
    rw [Bool.or_eq_true, not_or, Bool.not_eq_true, Bool.not_eq_true] at plain
    by_cases zero : u = 0
    · rw [zero]
      rfl
    · have shown := mt (ofNat_eq_nul_iff plain.1 plain.2).1 zero
      rw [List.takeWhile_cons_of_pos (by simpa using shown), List.takeWhile_cons_of_pos (by simpa using zero),
        decode_cons_plain u _ plain.1 plain.2, ih]

/-- The complete units of `b` in front of its first zero unit. -/
def frontUnits (b : Bytes) : List UInt16 := b.words16.takeWhile (· ≠ 0)

theorem toList_textOf (b : Bytes) : (textOf b).toList = (decode (frontUnits b)).map (·.getD replacement) :=
  String.toList_ofList

theorem nul_not_mem_textOf (b : Bytes) : '\x00' ∉ (textOf b).toList := by
  rw [toList_textOf, frontUnits, ← takeWhile_decode]
  intro mem
  obtain ⟨c, inside, nul⟩ := List.mem_map.1 mem
  cases c with
  | none => exact absurd nul (by decide)
  | some c =>
    obtain rfl : c = '\x00' := nul
    have shown := List.all_eq_true.1 List.all_takeWhile _ inside
    rw [decide_eq_true_iff] at shown
    exact shown rfl

/-- What may stand behind a text so that it ends there. -/
inductive EndsText : List UInt8 → Prop
  | nothing : EndsText []
  | singleByte (x : UInt8) : EndsText [x]
  | zeroUnit (rest : List UInt8) : EndsText (0 :: 0 :: rest)

theorem EndsText.frontUnits_eq {tail : List UInt8} (h : EndsText tail) : frontUnits tail.toArray = [] := by
  cases h with
  | nothing => rfl
  | singleByte x => simp [frontUnits, Bytes.words16]
  | zeroUnit rest =>
    rw [frontUnits, Bytes.words16_cons]
    rfl

/-- A text without NULs is read back from its bytes, whatever ends it. The text of any bytes holds no NUL, and is
written in as many units as there are in front of the first zero unit: the same ones, but that each surrogate
that is not beside its partner is replaced. -/
theorem textOf_keepsUnits :
    (∀ (s : String) (tail : List UInt8), '\x00' ∉ s.toList → EndsText tail →
      textOf ((encode s.toList).flatMap bytesOf16 ++ tail).toArray = s) ∧
    ∀ b : Bytes, '\x00' ∉ (textOf b).toList ∧
      (encode (textOf b).toList).length = (frontUnits b).length ∧
      encode (textOf b).toList = mended (frontUnits b) := by
  refine ⟨fun s tail free ends => ?_, fun b => ?_⟩
  · have stop := ends.frontUnits_eq
    rw [frontUnits] at stop
    rw [textOf, Bytes.words16_append, takeWhile_encode free, stop, List.append_nil, lossy_encode]
  · have units : encode (textOf b).toList = mended (frontUnits b) := by rw [toList_textOf, encode_decode]
    exact ⟨nul_not_mem_textOf b, by rw [units, length_mended], units⟩

/-- A pair is read back as one character, in front of a zero unit and a rest. -/
theorem textOf_keepsUnits_pair :
    '\x00' ∉ "a😀".toList ∧ EndsText [0, 0, 0x62] ∧
      textOf #[0x61, 0x00, 0x3D, 0xD8, 0x00, 0xDE, 0, 0, 0x62] = "a😀" := by
  have bytes : ((encode "a😀".toList).flatMap bytesOf16 ++ [0, 0, 0x62]).toArray =
      #[0x61, 0x00, 0x3D, 0xD8, 0x00, 0xDE, 0, 0, 0x62] := by decide +kernel
  have free : '\x00' ∉ "a😀".toList := by decide +kernel
  refine ⟨free, .zeroUnit _, ?_⟩
  rw [← bytes]
  exact textOf_keepsUnits.1 "a😀" [0, 0, 0x62] free (.zeroUnit _)

/-- A high surrogate in front of a pair, and a low one behind it, are without a partner. -/
example : mended [0xD83D, 0xD83D, 0xDE00, 0xDE00] = [0xFFFD, 0xD83D, 0xDE00, 0xFFFD] := by decide

end Utf16

/-! ## Texts of records -/

namespace RecordText

theorem nonempty_toList (s : String) : nonempty s.toList = if s = "" then none else some s := by
  by_cases empty : s = ""
  · rw [if_pos empty, empty]
    rfl
  · have filled : s.toList.isEmpty = false := by simpa using empty
    rw [if_neg empty, nonempty, filled, String.ofList_toList]
    rfl

/-- To decode all units and stop at the first NUL is to stop at the first zero unit and decode. -/
theorem unicode?_of_even {b : Bytes} (filled : b.size ≠ 0) (even : b.size % 2 = 0) :
    unicode? b = nonempty (Utf16.textOf b).toList := by
  have bytes : ¬ (b.isEmpty = true ∨ b.size % 2 ≠ 0) := by
    rintro (empty | odd)
    · exact filled (by rw [Array.isEmpty_iff.1 empty]; rfl)
    · exact odd even
  rw [unicode?, if_neg bytes, Utf16.takeWhile_decode, Utf16.toList_textOf]
  rfl

/-- The text of a record is the text of its bytes if that has characters; an odd number of bytes, or none, holds no
text. -/
theorem unicode?_eq_textOf (b : Bytes) :
    unicode? b = if b.size ≠ 0 ∧ b.size % 2 = 0 ∧ Utf16.textOf b ≠ "" then some (Utf16.textOf b) else none := by
  by_cases noBytes : b.size = 0
  · rw [if_neg fun h => h.1 noBytes, unicode?, if_pos]
    exact .inl (Array.isEmpty_iff.2 (Array.size_eq_zero_iff.1 noBytes))
  by_cases even : b.size % 2 = 0
  · rw [unicode?_of_even noBytes even, nonempty_toList]
    by_cases empty : Utf16.textOf b = ""
    · rw [if_pos empty, if_neg fun h => h.2.2 empty]
    · rw [if_neg empty, if_pos ⟨noBytes, even, empty⟩]
  · rw [unicode?_odd even, if_neg fun h => even h.2.1]

/-- A high surrogate right in front of the terminator, and one at the end. -/
example : unicode? #[0x3D, 0xD8, 0, 0] = some "\uFFFD" ∧ unicode? #[0x61, 0, 0x3D, 0xD8] = some "a\uFFFD" := by
  decide +kernel

end RecordText

end DeckDump
