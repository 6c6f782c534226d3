import DeckDump.Proofs.Bytes
import DeckDump.Proofs.Record.Atom
import DeckDump.Proofs.Record.Listing
import DeckDump.Proofs.Sink

/-!
# Record forests

What a record stream should hold: a forest, whose leaves are atoms and whose inner nodes are the
records that hold records. A listing ends without a fault iff its bytes encode a valid forest, and
then it is the forest in pre-order:

* `Forest.Valid`, `Forest.encode`: the forests that may stand in a stream, and their bytes;
* `Forest.preorder`, `Forest.texts`: the records of a forest, and the text in it, in order;
* `listLevel_encode`: of the encoding of a valid forest, the listing is its pre-order;
* `exists_forest`: a listing without a fault is that of an encoded valid forest;
* `read_accepts_wellFormed`: so a stream is read to its end iff its bytes are well-formed.
-/

namespace DeckDump

/-- Records one behind the other: atoms with their bodies, and records that hold records. -/
inductive Forest
  | nil
  | atom (header : RecordHeader) (body : Bytes) (rest : Forest)
  | container (header : RecordHeader) (children rest : Forest)

namespace Forest

/-- The bytes of a forest: each record is its header and behind it its body. -/
def encode : Forest → List UInt8
  | nil => []
  | atom header body rest => header.encode ++ body.toList ++ rest.encode
  | container header children rest => header.encode ++ children.encode ++ rest.encode

/-- Whether the records, which lie inside `depth` others, are ones that a stream may hold: lengths
are those of the bodies, version 15 means to hold records, no record lies inside more than 64
others (nor could one in an empty container), and each atom is as long as its type needs. -/
def Valid (depth : Nat) : Forest → Prop
  | nil => True
  | atom header body rest =>
    header.version.val ≠ 0xF ∧ header.length.toNat = body.size ∧ header.type.needed body ≤ body.size ∧ rest.Valid depth
  | container header children rest =>
    header.version.val = 0xF ∧ header.length.toNat = children.encode.length ∧ depth + 1 ≤ 64 ∧
      children.Valid (depth + 1) ∧ rest.Valid depth

instance decidableValid : (depth : Nat) → (f : Forest) → Decidable (f.Valid depth)
  | _, nil => isTrue trivial
  | depth, atom _ _ rest =>
    have := decidableValid depth rest
    inferInstanceAs (Decidable (_ ∧ _ ∧ _ ∧ rest.Valid depth))
  | depth, container _ children rest =>
    have := decidableValid (depth + 1) children
    have := decidableValid depth rest
    inferInstanceAs (Decidable (_ ∧ _ ∧ _ ∧ children.Valid (depth + 1) ∧ rest.Valid depth))

/-- The records of a forest at `offset`, each in front of those it holds. -/
def preorder (depth offset : Nat) : Forest → List Seen
  | nil => []
  | atom header body rest =>
    .atom header offset depth body :: rest.preorder depth (offset + 8 + body.size)
  | container header children rest =>
    { header, offset, depth } ::
      (children.preorder (depth + 1) (offset + 8) ++ rest.preorder depth (offset + 8 + children.encode.length))

/-- The fragments of text in a forest, in order. -/
def texts : Forest → List String
  | nil => []
  | atom header body rest => (header.type.textOf body).toList ++ rest.texts
  | container _ children rest => children.texts ++ rest.texts

theorem texts_preorder (f : Forest) (depth offset : Nat) :
    (f.preorder depth offset).filterMap (fun r => r.body.text) = f.texts := by
  induction f generalizing depth offset with
  | nil => rfl
  | atom header body rest ih =>
    simp only [preorder, texts, List.filterMap_cons, Seen.atom, AtomReading.text_ofBody, ih]
    cases header.type.textOf body <;> rfl
  | container header children rest ihc ihr => simp [preorder, texts, ihc, ihr]

end Forest

/-- The bytes of the records that may lie inside `depth` others. -/
def WellFormed (depth : Nat) (bytes : List UInt8) : Prop := ∃ f : Forest, f.Valid depth ∧ f.encode = bytes

namespace RecordHeader

theorem isContainer_iff (h : RecordHeader) : h.isContainer = true ↔ h.version.val = 0xF := by
  rw [isContainer, decide_eq_true_iff, ← Fin.val_inj]
  rfl

/-- The two halves of a header's first word. -/
theorem first_word_iff (w : UInt16) (version : Fin 16) (inst : Fin 4096) :
    (versionOf w = version ∧ instOf w = inst) ↔ w = UInt16.ofNat (version + 16 * inst) := by
  have := w.toNat_lt
  have := version.isLt
  have := inst.isLt
  rw [← UInt16.toNat_inj, UInt16.toNat_ofNat', ← Fin.val_inj, ← Fin.val_inj]
  simp only [versionOf, instOf]
  omega

theorem readAt?_eq_some_iff_words (b : Bytes) (i : Nat) (h : RecordHeader) :
    readAt? b i = some h ↔ b.u16At? i = some (UInt16.ofNat (h.version + 16 * h.inst)) ∧
      b.u16At? (i + 2) = some h.type ∧ b.u32At? (i + 4) = some h.length := by
  obtain ⟨version, inst, type, length⟩ := h
  simp only [readAt?, Option.bind_eq_bind, Option.bind_eq_some_iff, Option.pure_def, Option.some.injEq, mk.injEq]
  constructor
  · rintro ⟨w, hw, t, ht, l, hl, hv, hi, rfl, rfl⟩
    exact ⟨hw.trans (congrArg some ((first_word_iff w version inst).1 ⟨hv, hi⟩)), ht, hl⟩
  · rintro ⟨hw, ht, hl⟩
    obtain ⟨hv, hi⟩ := (first_word_iff _ version inst).2 rfl
    exact ⟨_, hw, _, ht, _, hl, hv, hi, rfl, rfl⟩

/-- A header is read where its bytes stand. -/
theorem readAt?_eq_some_iff (b : Bytes) (i : Nat) (h : RecordHeader) :
    readAt? b i = some h ↔ (b.extract i (i + size)).toList = h.encode := by
  rw [readAt?_eq_some_iff_words, Bytes.u16At?_eq_some_iff, Bytes.u16At?_eq_some_iff, Bytes.u32At?_eq_some_iff, size,
    b.toList_extract_split (show i ≤ i + 4 by omega) (show i + 4 ≤ i + 8 by omega),
    b.toList_extract_split (show i ≤ i + 2 by omega) (show i + 2 ≤ i + 4 by omega), encode]
  constructor
  · rintro ⟨hw, ht, hl⟩
    rw [hw, ht, hl]
  · intro e
    have size : i + 8 ≤ b.size := by
      have length := congrArg List.length e
      simp only [List.length_append, Array.length_toList, Array.size_extract, length_bytesOf16,
        length_bytesOf32] at length
      omega
    obtain ⟨e, hl⟩ := List.append_inj' e (by rw [b.length_toList_extract size, length_bytesOf32]; omega)
    obtain ⟨hw, ht⟩ := List.append_inj' e (by rw [b.length_toList_extract (by omega), length_bytesOf16]; omega)
    exact ⟨hw, ht, hl⟩

end RecordHeader

/-- What follows a record in a level stands behind its body. -/
theorem Bytes.toList_extract_record (b : Bytes) {start body next stop : Nat} (h₁ : start ≤ body) (h₂ : body ≤ next)
    (h₃ : next ≤ stop) :
    (b.extract start stop).toList =
      (b.extract start body).toList ++ (b.extract body next).toList ++ (b.extract next stop).toList := by
  rw [b.toList_extract_split (Nat.le_trans h₁ h₂) h₃, b.toList_extract_split h₁ h₂]

namespace RecordStream

/-- A record whose bytes stand in front of `rest`: where its body ends, and what is read there. -/
theorem record_of_encode {b : Bytes} {start stop : Nat} {header : RecordHeader} {body rest : List UInt8}
    (inside : stop ≤ b.size) (length : header.length.toNat = body.length)
    (h : (b.extract start stop).toList = header.encode ++ body ++ rest) :
    start + 8 + body.length + rest.length = stop ∧ RecordHeader.readAt? b start = some header ∧
      (b.extract (start + 8) (start + 8 + body.length)).toList = body ∧
      (b.extract (start + 8 + body.length) stop).toList = rest := by
  have size := congrArg List.length h
  rw [b.length_toList_extract inside, List.length_append, List.length_append, RecordHeader.length_encode,
    RecordHeader.size] at size
  have ends : start + 8 + body.length + rest.length = stop := by omega
  rw [b.toList_extract_record (Nat.le_add_right start 8) (Nat.le_add_right _ body.length) (by omega)] at h
  obtain ⟨h, behind⟩ := List.append_inj' h (by rw [b.length_toList_extract inside]; omega)
  obtain ⟨first, within⟩ := List.append_inj' h (by rw [b.length_toList_extract (by omega)]; omega)
  exact ⟨ends, (RecordHeader.readAt?_eq_some_iff b start header).2 first, within, behind⟩

/-- A level that starts with a whole record lists that record and then the rest. -/
theorem listLevel_record {b : Bytes} {start stop depth : Nat} {header : RecordHeader} (shallow : depth ≤ maxDepth)
    (found : RecordHeader.readAt? b start = some header) (fits : start + 8 + header.length.toNat ≤ stop) :
    listLevel b start stop depth =
      .followedBy
        (if header.isContainer then
          .container header start depth (listLevel b (start + 8) (start + 8 + header.length.toNat) (depth + 1))
        else .atom header start depth (b.extract (start + 8) (start + 8 + header.length.toNat)))
        (listLevel b (start + 8 + header.length.toNat) stop depth) := by
  have long : ¬ stop - start < RecordHeader.size := by
    rw [RecordHeader.size]
    omega
  rw [listLevel, if_neg (Nat.not_lt.2 shallow), if_pos (by omega), if_neg long, found]
  exact if_pos fits

/-- The listing of an encoded valid forest is its pre-order. -/
theorem listLevel_encode {b : Bytes} (f : Forest) {start stop depth : Nat} (shallow : depth ≤ maxDepth)
    (inside : stop ≤ b.size) (ordered : start ≤ stop) (valid : f.Valid depth)
    (h : (b.extract start stop).toList = f.encode) : listLevel b start stop depth = ⟨f.preorder depth start, none⟩ := by
  induction f generalizing start stop depth with
  | nil =>
    have size := congrArg List.length h
    rw [b.length_toList_extract inside] at size
    have done : ¬ start < stop := by
      simp only [Forest.encode, List.length_nil] at size
      omega
    rw [listLevel, if_neg (Nat.not_lt.2 shallow), if_neg done]
    rfl
  | atom header body rest ih =>
    obtain ⟨leaf, length, enough, valid⟩ := valid
    obtain ⟨ends, found, within, behind⟩ := record_of_encode inside (by simpa using length) h
    simp only [Array.length_toList] at ends within behind
    have later := ih shallow inside (by omega) valid behind
    have extracted : b.extract (start + 8) (start + 8 + body.size) = body := Array.toList_inj.1 within
    have whole : (Seen.atom header start depth body).body.fault = none :=
      (AtomReading.fault_ofBody_eq_none_iff header body (depth + 1)).2 enough
    have no_container : ¬ header.isContainer = true := fun node => leaf (header.isContainer_iff.1 node)
    rw [listLevel_record shallow found (by omega), length, if_neg no_container, later, extracted, Listing.atom, whole]
    rfl
  | container header children rest ihc ihr =>
    obtain ⟨node, length, deeper, validc, validr⟩ := valid
    obtain ⟨ends, found, within, behind⟩ := record_of_encode inside length h
    have children_listed := ihc deeper (by omega) (by omega) validc within
    have later := ihr shallow inside (by omega) validr behind
    rw [listLevel_record shallow found (by omega), length, if_pos (header.isContainer_iff.2 node), children_listed,
      later]
    rfl

/-- A listing without a fault is that of an encoded valid forest. -/
theorem exists_forest {b : Bytes} {start stop depth : Nat} (inside : stop ≤ b.size) (ordered : start ≤ stop)
    (h : (listLevel b start stop depth).fault = none) :
    depth ≤ maxDepth ∧ ∃ f : Forest, f.Valid depth ∧ f.encode = (b.extract start stop).toList := by
  fun_induction listLevel b start stop depth with
  | case1 | case2 | case3 | case5 => cases h
  | case4 start stop depth shallow more long header found body next fits ihc ihr =>
    obtain ⟨whole, later⟩ := Listing.fault_followedBy h
    obtain ⟨-, rest, validr, encoder⟩ := ihr inside fits later
    have first := (RecordHeader.readAt?_eq_some_iff b start header).1 found
    have bodyLength : (b.extract body next).toList.length = header.length.toNat := by
      rw [b.length_toList_extract (by omega)]
      exact Nat.add_sub_cancel_left body _
    rw [b.toList_extract_record (show start ≤ body from Nat.le_add_right _ _)
      (show body ≤ next from Nat.le_add_right _ _) fits]
    refine ⟨Nat.not_lt.1 shallow, ?_⟩
    by_cases node : header.isContainer
    · rw [if_pos node] at whole
      obtain ⟨deeper, children, validc, encodec⟩ := ihc (by omega) (Nat.le_add_right _ _) whole
      refine ⟨.container header children rest, ⟨header.isContainer_iff.1 node, ?_, deeper, validc, validr⟩, ?_⟩
      · rw [encodec, bodyLength]
      · rw [Forest.encode, encodec, encoder]
        exact congrArg (· ++ _ ++ _) first.symm
    · rw [if_neg node] at whole
      refine ⟨.atom header (b.extract body next) rest, ⟨?_, ?_, ?_, validr⟩, ?_⟩
      · exact fun leaf => node (header.isContainer_iff.2 leaf)
      · rw [← bodyLength, Array.length_toList]
      · exact (AtomReading.fault_ofBody_eq_none_iff header _ (depth + 1)).1 whole
      · rw [Forest.encode, encoder]
        exact congrArg (· ++ _ ++ _) first.symm
  | case6 start stop depth shallow done =>
    refine ⟨Nat.not_lt.1 shallow, .nil, trivial, ?_⟩
    rw [Array.extract_empty_of_stop_le_start (Nat.not_lt.1 done)]
    rfl

/-- A stream is read to its end iff its bytes are well-formed, and fails as undecodable otherwise. What
it then shows and keeps is the forest in pre-order; of each record its header comes first. -/
theorem read_accepts_wellFormed (logged : Bool) (b : Bytes) (s : Session) (free : s.sink.NeverFails) :
    ((read logged b s).1 = .ok () ↔ WellFormed 0 b.toList) ∧
    (¬ WellFormed 0 b.toList → ∃ fault, (read logged b s).1 = .error (.record fault)) ∧
    ∀ f : Forest, f.Valid 0 → f.encode = b.toList →
      (read logged b s).2.sink.written =
        s.sink.written ++ s.sink.shows (shownLines ((f.preorder 0 0).flatMap Seen.lines)) ∧
      (∀ r ∈ f.preorder 0 0, r.lines = (Text.fill (2 * r.depth) ' ' ++ r.header.type.name ++
        s!" (type: 0x{Text.hex 4 r.header.type.toNat}, ver: 0x{Text.hex 1 r.header.version.val}, " ++
        s!"instance: 0x{Text.hex 3 r.header.inst.val}, size: {r.header.length.toNat}, offset: {r.offset})") ::
          r.body.lines) ∧
      (read logged b s).2.text.fragments.toList = s.text.fragments.toList ++ f.texts := by
  have whole : b.extract 0 b.size = b := Array.extract_size
  have encoded (f : Forest) (valid : f.Valid 0) (h : f.encode = b.toList) : list b = ⟨f.preorder 0 0, none⟩ :=
    listLevel_encode f (Nat.zero_le _) (Nat.le_refl _) (Nat.zero_le _) valid (by rw [whole, h])
  have complete : WellFormed 0 b.toList ↔ (list b).fault = none := by
    constructor
    · rintro ⟨f, valid, h⟩
      rw [encoded f valid h]
    · intro h
      obtain ⟨-, f, valid, e⟩ := exists_forest (Nat.le_refl _) (Nat.zero_le _) h
      exact ⟨f, valid, by rw [e, whole]⟩
  rw [read_eq, Script.run_of_neverFails _ free]
  refine ⟨?_, ?_, ?_⟩
  · rw [complete, Listing.script]
    cases (list b).fault <;> simp [RecordFault.ending]
  · intro h
    rw [complete] at h
    obtain ⟨fault, found⟩ := Option.ne_none_iff_exists'.1 h
    exact ⟨fault, by rw [Listing.script, found]; rfl⟩
  · intro f valid h
    rw [encoded f valid h]
    simp only [Session.after, Listing.script, Seen.output_steps, Seen.textAfter_steps, Forest.texts_preorder]
    exact ⟨trivial, fun r _ => r.lines_eq, trivial⟩

/-- A container that holds one text atom. -/
theorem read_accepts_wellFormed_slide :
    (default : Sink).NeverFails ∧
      (read true #[15, 0, 238, 3, 10, 0, 0, 0, 0, 0, 168, 15, 2, 0, 0, 0, 72, 105] default).1 = .ok () ∧
      (read true #[15, 0, 238, 3, 10, 0, 0, 0, 0, 0, 168, 15, 2, 0, 0, 0, 72, 105] default).2.text.fragments.toList =
        ["Hi\n"] := by
  let slide : Forest := .container ⟨15, 0, 0x03EE, 10⟩ (.atom ⟨0, 0, 0x0FA8, 2⟩ #[72, 105] .nil) .nil
  have valid : slide.Valid 0 := by decide
  have free : (default : Session).sink.NeverFails := .inr rfl
  obtain ⟨accepts, -, gives⟩ := read_accepts_wellFormed true
    #[15, 0, 238, 3, 10, 0, 0, 0, 0, 0, 168, 15, 2, 0, 0, 0, 72, 105] default free
  exact ⟨free, accepts.2 ⟨slide, valid, by decide⟩, (gives slide valid (by decide)).2.2⟩

end RecordStream

end DeckDump
