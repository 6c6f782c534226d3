import DeckDump.CommandLine.Arguments

/-!
# The options that are dropped

Filtering a command line drops the options that nobody knows, up to a double dash, and nothing else:

* `UnknownOption`: how options that nobody knows are spelled (`isKnown_eq_false_iff`);
* `filterOptions_append`: arguments without a double dash are filtered each by itself;
* `filterOptions_of_closed`: from the first double dash on all is kept (`exists_front`);
* `DroppedAt`, `filterArguments_places`: the place and the spelling of an argument decide whether it is dropped;
* `filterArguments_splits`: so every argument is kept or dropped in its order, what is kept is kept again, and
  one more unknown option is dropped and changes nothing else.
-/

namespace DeckDump.CommandLine

/-- The long options that a user can give. -/
def listedNames : List String :=
  ["help", "version", "debug", "show-sector-chain", "no-struct-output", "dump-text"]

theorem longOptions_eq : longOptions = listedNames := rfl

/-- How options that nobody knows are spelled; they are texts. -/
inductive UnknownOption : Argument → Prop
  /-- Two dashes, and in front of the first equals sign a name that is not listed. -/
  | long (text : String) (cs : List Char) (spelled : text.toList = '-' :: '-' :: cs)
      (unlisted : String.ofList (cs.takeWhile (· ≠ '=')) ∉ listedNames) : UnknownOption (.text text)
  /-- One dash, and behind it letters of which one is neither that of the help nor that of the version. -/
  | short (text : String) (c : Char) (cs : List Char) (spelled : text.toList = '-' :: c :: cs) (single : c ≠ '-')
      (unlisted : ∃ x ∈ c :: cs, x ≠ 'h' ∧ x ≠ 'V') : UnknownOption (.text text)

section

variable {text : String}

theorem isKnown_of_long {cs : List Char} (spelled : text.toList = '-' :: '-' :: cs) :
    isKnown (.text text) = listedNames.contains (String.ofList (cs.takeWhile (· ≠ '='))) := by
  rw [isKnown, Argument.text?, Option.map_some, spelling, spelled, ← longOptions_eq]
  rfl

theorem isKnown_of_short {c : Char} {cs : List Char} (spelled : text.toList = '-' :: c :: cs) (single : c ≠ '-') :
    isKnown (.text text) = (c :: cs).all shortOptions.contains := by
  have short : spelling text = .short (c :: cs) := by
    rw [spelling, spelled]
    split
    · rename_i double
      cases double
      exact absurd rfl single
    · rename_i same
      cases same
      rfl
    · rename_i other
      exact absurd rfl (other c cs)
  rw [isKnown, Argument.text?, Option.map_some, short]

theorem isKnown_of_input (plain : ∀ c cs, text.toList ≠ '-' :: c :: cs) : isKnown (.text text) = true := by
  have input : spelling text = .input := by
    rw [spelling]
    split
    · rename_i spelled
      exact absurd spelled (plain _ _)
    · rename_i spelled
      exact absurd spelled (plain _ _)
    · rfl
  rw [isKnown, Argument.text?, Option.map_some, input]

end

/-- An argument is known unless it is spelled like an unknown option. -/
theorem isKnown_eq_false_iff (arg : Argument) : isKnown arg = false ↔ UnknownOption arg := by
  constructor
  · intro unknown
    cases arg with
    | bytes b noText => cases unknown
    | text text =>
      by_cases dashed : ∃ c cs, text.toList = '-' :: c :: cs
      · obtain ⟨c, cs, spelled⟩ := dashed
        by_cases double : c = '-'
        · subst double
          rw [isKnown_of_long spelled] at unknown
          exact .long text cs spelled (by simpa using unknown)
        · rw [isKnown_of_short spelled double, List.all_eq_false] at unknown
          obtain ⟨x, mem, unlisted⟩ := unknown
          exact .short text c cs spelled double ⟨x, mem, by simpa [shortOptions] using unlisted⟩
      · rw [isKnown_of_input fun c cs spelled => dashed ⟨c, cs, spelled⟩] at unknown
        cases unknown
  · rintro (⟨text, cs, spelled, unlisted⟩ | ⟨text, c, cs, spelled, single, x, mem, unlisted⟩)
    · rw [isKnown_of_long spelled]
      simpa using unlisted
    · rw [isKnown_of_short spelled single, List.all_eq_false]
      exact ⟨x, mem, by simpa [shortOptions] using unlisted⟩

instance (arg : Argument) : Decidable (UnknownOption arg) := decidable_of_iff _ (isKnown_eq_false_iff arg)

/-! ## The part in front of a double dash -/

/-- Arguments without a double dash are filtered each by itself, whatever stands behind them. -/
theorem filterOptions_append {front : List Argument} (absent : endOfOptions ∉ front) (back : List Argument) :
    filterOptions (front ++ back) =
      (front.filter isKnown ++ (filterOptions back).1, front.filter (!isKnown ·) ++ (filterOptions back).2) := by
  induction front with
  | nil => rfl
  | cons arg front ih =>
    rw [List.mem_cons, not_or] at absent
    rw [List.cons_append, filterOptions, if_neg (Ne.symm absent.1), ih absent.2, List.filter_cons, List.filter_cons]
    cases isKnown arg <;> rfl

theorem filterOptions_of_not_mem {args : List Argument} (absent : endOfOptions ∉ args) :
    filterOptions args = (args.filter isKnown, args.filter (!isKnown ·)) := by
  have whole := filterOptions_append absent []
  rwa [filterOptions, List.append_nil, List.append_nil, List.append_nil] at whole

/-- Whether arguments are none, or begin with a double dash. -/
def Closed (args : List Argument) : Prop := args = [] ∨ ∃ rest, args = endOfOptions :: rest

theorem Closed.filterOptions_eq {args : List Argument} (h : Closed args) : filterOptions args = (args, []) := by
  obtain rfl | ⟨rest, rfl⟩ := h
  · rfl
  · rw [filterOptions, if_pos rfl]

theorem exists_front (args : List Argument) :
    ∃ front back, args = front ++ back ∧ endOfOptions ∉ front ∧ Closed back := by
  induction args with
  | nil => exact ⟨[], [], rfl, List.not_mem_nil, .inl rfl⟩
  | cons arg rest ih =>
    by_cases last : arg = endOfOptions
    · exact ⟨[], arg :: rest, rfl, List.not_mem_nil, .inr ⟨rest, by rw [last]⟩⟩
    · obtain ⟨front, back, rfl, absent, closed⟩ := ih
      exact ⟨arg :: front, back, rfl, by rw [List.mem_cons, not_or]; exact ⟨Ne.symm last, absent⟩, closed⟩

/-- In front of the first double dash, what is known is kept; from there on, all is. -/
theorem filterOptions_of_closed {front back : List Argument} (absent : endOfOptions ∉ front) (closed : Closed back) :
    filterOptions (front ++ back) = (front.filter isKnown ++ back, front.filter (!isKnown ·)) := by
  rw [filterOptions_append absent, closed.filterOptions_eq, List.append_nil]

/-- What was kept is kept again. -/
theorem filterOptions_kept (args : List Argument) :
    filterOptions (filterOptions args).1 = ((filterOptions args).1, []) := by
  obtain ⟨front, back, rfl, absent, closed⟩ := exists_front args
  have kept : endOfOptions ∉ front.filter isKnown := fun mem => absent (List.mem_filter.1 mem).1
  have none : (front.filter isKnown).filter (!isKnown ·) = [] := by simp [List.filter_filter]
  rw [filterOptions_of_closed absent closed, filterOptions_of_closed kept closed, List.filter_filter, none]
  simp

/-! ## Places -/

/-- Whether `arg`, at place `i` of a command line, is dropped: it is not the program's name, no double dash stands
behind that name up to this place, and nobody knows it. -/
def DroppedAt (args : List Argument) (arg : Argument) (i : Nat) : Prop :=
  0 < i ∧ endOfOptions ∉ (args.take (i + 1)).drop 1 ∧ UnknownOption arg

instance (args : List Argument) (arg : Argument) (i : Nat) : Decidable (DroppedAt args arg i) :=
  inferInstanceAs (Decidable (_ ∧ _ ∧ _))

/-- Of places that are chosen by what stands there, the arguments are those chosen. -/
theorem map_fst_filter_zipIdx (q : Argument → Bool) {p : Argument × Nat → Bool} {args : List Argument} {k : Nat}
    (same : ∀ x ∈ args.zipIdx k, p x = q x.1) : ((args.zipIdx k).filter p).map Prod.fst = args.filter q :=
  calc ((args.zipIdx k).filter p).map Prod.fst
    _ = ((args.zipIdx k).filter fun x => q x.1).map Prod.fst := by rw [List.filter_congr same]
    _ = ((args.zipIdx k).map Prod.fst).filter q := List.filter_map.symm
    _ = args.filter q := by rw [List.zipIdx_map_fst]

section

variable {program : Argument} {front back : List Argument}

theorem not_droppedAt_program : ¬ DroppedAt (program :: (front ++ back)) program 0 := fun h => Nat.lt_irrefl 0 h.1

theorem droppedAt_front (absent : endOfOptions ∉ front) {x : Argument × Nat} (mem : x ∈ front.zipIdx 1) :
    DroppedAt (program :: (front ++ back)) x.1 x.2 ↔ isKnown x.1 = false := by
  obtain ⟨first, last, -⟩ := List.mem_zipIdx mem
  have inside : endOfOptions ∉ (front ++ back).take x.2 := fun mem => by
    rw [List.take_append_of_le_length (by omega)] at mem
    exact absent (List.mem_of_mem_take mem)
  rw [isKnown_eq_false_iff]
  exact ⟨fun h => h.2.2, fun unknown => ⟨first, inside, unknown⟩⟩

theorem not_droppedAt_back (closed : Closed back) {x : Argument × Nat} (mem : x ∈ back.zipIdx (1 + front.length)) :
    ¬ DroppedAt (program :: (front ++ back)) x.1 x.2 := by
  obtain ⟨first, -, -⟩ := List.mem_zipIdx mem
  obtain rfl | ⟨rest, rfl⟩ := closed
  · cases mem
  · rintro ⟨-, inside, -⟩
    refine inside (?_ : endOfOptions ∈ (front ++ endOfOptions :: rest).take x.2)
    obtain ⟨k, place⟩ : ∃ k, x.2 = front.length + (k + 1) := ⟨x.2 - front.length - 1, by omega⟩
    rw [place, List.take_length_add_append, List.take_succ_cons]
    exact List.mem_append_right _ List.mem_cons_self

/-- The places of a command line are that of the program's name, those up to a double dash and those behind. -/
theorem filter_zipIdx_parts (p : Argument × Nat → Bool) :
    (program :: (front ++ back)).zipIdx.filter p =
      [(program, 0)].filter p ++ ((front.zipIdx 1).filter p ++ (back.zipIdx (1 + front.length)).filter p) := by
  rw [List.zipIdx_cons, List.zipIdx_append, ← List.singleton_append, List.filter_append, List.filter_append]

end

/-- What is kept and what is dropped of a command line, by the places of its arguments. -/
theorem filterArguments_places (args : List Argument) :
    filterArguments args =
      ((args.zipIdx.filter fun x => ¬ DroppedAt args x.1 x.2).map Prod.fst,
        (args.zipIdx.filter fun x => DroppedAt args x.1 x.2).map Prod.fst) := by
  cases args with
  | nil => rfl
  | cons program options =>
    obtain ⟨front, back, rfl, absent, closed⟩ := exists_front options
    let out (x : Argument × Nat) : Bool := DroppedAt (program :: (front ++ back)) x.1 x.2
    have name : out (program, 0) = false := decide_eq_false not_droppedAt_program
    have inFront : ∀ x ∈ front.zipIdx 1, out x = !isKnown x.1 := fun x mem => by
      rw [Bool.eq_iff_iff, decide_eq_true_iff, droppedAt_front absent mem, Bool.not_eq_true']
    have behind : ∀ x ∈ back.zipIdx (1 + front.length), out x = false :=
      fun x mem => decide_eq_false (not_droppedAt_back closed mem)
    have dropped : ((program :: (front ++ back)).zipIdx.filter out).map Prod.fst = front.filter (!isKnown ·) := by
      rw [filter_zipIdx_parts, List.map_append, List.map_append, map_fst_filter_zipIdx (!isKnown ·) inFront,
        map_fst_filter_zipIdx (fun _ => false) behind, List.filter_eq_nil_iff.2 fun _ _ => Bool.false_ne_true,
        List.append_nil]
      simp [name]
    have kept : ((program :: (front ++ back)).zipIdx.filter (!out ·)).map Prod.fst =
        program :: (front.filter isKnown ++ back) := by
      have known : ∀ x ∈ front.zipIdx 1, (!out x) = isKnown x.1 := fun x mem => by rw [inFront x mem, Bool.not_not]
      have all : ∀ x ∈ back.zipIdx (1 + front.length), (!out x) = true := fun x mem => by rw [behind x mem]; rfl
      rw [filter_zipIdx_parts, List.map_append, List.map_append, map_fst_filter_zipIdx isKnown known,
        map_fst_filter_zipIdx (fun _ => true) all, List.filter_eq_self.2 fun _ _ => rfl]
      simp [name]
    simp only [decide_not]
    rw [filterArguments, filterOptions_of_closed absent closed]
    exact Prod.ext kept.symm dropped.symm

/-! ## One more option -/

/-- An unknown option that no double dash stands in front of is dropped, and the others as they were without it. -/
theorem filterOptions_insert {front : List Argument} (absent : endOfOptions ∉ front) {option : Argument}
    (single : option ≠ endOfOptions) (unknown : UnknownOption option) (back : List Argument) :
    filterOptions (front ++ option :: back) =
      ((filterOptions (front ++ back)).1, (filterOptions front).2 ++ option :: (filterOptions back).2) := by
  have next : filterOptions (option :: back) = ((filterOptions back).1, option :: (filterOptions back).2) := by
    rw [filterOptions, if_neg single, (isKnown_eq_false_iff option).2 unknown]
    rfl
  rw [filterOptions_append absent, filterOptions_append absent, filterOptions_of_not_mem absent, next]

/-- Every argument is kept or dropped, in its order, by its place and its spelling. The program's name is kept, and
what is kept is kept again. One more unknown option, anywhere behind the program's name where no double dash
stands in front of it, changes nothing but that it is dropped in its place. Arguments may be texts or not. -/
theorem filterArguments_splits (args : List Argument) :
    (filterArguments args).1 = (args.zipIdx.filter fun x => ¬ DroppedAt args x.1 x.2).map Prod.fst ∧
    (filterArguments args).2 = (args.zipIdx.filter fun x => DroppedAt args x.1 x.2).map Prod.fst ∧
    (filterArguments args).1.head? = args.head? ∧
    filterArguments (filterArguments args).1 = ((filterArguments args).1, []) ∧
    ∀ program front back option, args = program :: (front ++ back) → .text "--" ∉ front → option ≠ .text "--" →
      UnknownOption option →
      ∃ behind, (filterArguments args).2 = (filterArguments (program :: front)).2 ++ behind ∧
        filterArguments (program :: (front ++ option :: back)) =
          ((filterArguments args).1, (filterArguments (program :: front)).2 ++ option :: behind) := by
  refine ⟨by rw [filterArguments_places], by rw [filterArguments_places], ?_, ?_, ?_⟩
  · cases args <;> rfl
  · cases args with
    | nil => rfl
    | cons program options => exact congrArg (fun split => (program :: split.1, split.2)) (filterOptions_kept options)
  · rintro program front back option rfl absent single unknown
    refine ⟨(filterOptions back).2, ?_, ?_⟩
    · have whole : (filterOptions (front ++ back)).2 = (filterOptions front).2 ++ (filterOptions back).2 := by
        rw [filterOptions_append absent, filterOptions_of_not_mem absent]
      exact whole
    · exact congrArg (fun split => (program :: split.1, split.2)) (filterOptions_insert absent single unknown back)

/-- Two dashes and a byte that begins no character. -/
def damaged : Argument := .bytes #[0x2D, 0x2D, 0xFF] rfl

/-- One more option in front of a double dash, between one that is known and one that is not, and behind them an
argument that is no text. -/
theorem filterArguments_splits_verbose :
    .text "--" ∉ [Argument.text "--debug"] ∧ Argument.text "--verbose=2" ≠ .text "--" ∧
      UnknownOption (.text "--verbose=2") ∧
      filterArguments [.text "ppt-dump", .text "--debug", .text "--verbose=2", .text "-x", damaged, .text "--", .text "-y"] =
        ([.text "ppt-dump", .text "--debug", damaged, .text "--", .text "-y"], [.text "--verbose=2", .text "-x"]) := by
  have single : Argument.text "--verbose=2" ≠ .text "--" := by decide
  have unknown : UnknownOption (.text "--verbose=2") := by decide +kernel
  obtain ⟨-, -, -, -, insert⟩ :=
    filterArguments_splits [.text "ppt-dump", .text "--debug", .text "-x", damaged, .text "--", .text "-y"]
  obtain ⟨behind, dropped, inserted⟩ := insert (.text "ppt-dump") [.text "--debug"]
    [.text "-x", damaged, .text "--", .text "-y"] _ rfl (by decide) single unknown
  have before : filterArguments [.text "ppt-dump", .text "--debug", .text "-x", damaged, .text "--", .text "-y"] =
      ([.text "ppt-dump", .text "--debug", damaged, .text "--", .text "-y"], [.text "-x"]) := by decide +kernel
  have front : filterArguments [.text "ppt-dump", .text "--debug"] = ([.text "ppt-dump", .text "--debug"], []) := by
    decide +kernel
  rw [before, front] at dropped inserted
  rw [← show [Argument.text "-x"] = behind from dropped] at inserted
  exact ⟨by decide, single, unknown, inserted⟩

end DeckDump.CommandLine
