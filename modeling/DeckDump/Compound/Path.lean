/-!
# Paths

The place of an entry, as text: names with a slash between them. Joining keeps what it is given:
a name that starts with a slash is a path of its own, and an empty name leaves a slash at the
end. Only the reader of a path drops empty and single-dot parts and goes up at double dots.

* `splitSlashes_of_noSlash`: text without a slash is one part
-/

namespace DeckDump.Compound

/-- The place of an entry. -/
abbrev Path := String

namespace Path

/-- The place of the root entry. -/
def root : Path := "/"

/-- The place of an entry called `name` inside `parent`. -/
def join (parent : Path) (name : String) : Path :=
  if name.toList.head? = some '/' then name
  else if parent.toList.getLast? = some '/' ∨ parent = "" then parent ++ name
  else parent ++ "/" ++ name

/-- The parts of a text between its slashes. -/
def splitSlashes : List Char → List (List Char)
  | [] => [[]]
  | c :: rest =>
    if c = '/' then [] :: splitSlashes rest
    else
      match splitSlashes rest with
      | [] => [[c]]
      | part :: parts => (c :: part) :: parts

/-- Walks down from the root along parts of a path: the names that remain, the deepest first, or nothing
when it would leave the root. -/
def descend (names : List String) : List String → Option (List String)
  | [] => some names
  | part :: rest =>
    if part = "" ∨ part = "." then descend names rest
    else if part = ".." then
      match names with
      | [] => none
      | _ :: above => descend above rest
    else descend (part :: names) rest

/-- The names that a path leads along from the root, or nothing when it leaves the root. -/
def names? (p : Path) : Option (List String) :=
  (descend [] ((splitSlashes p.toList).map String.ofList)).map List.reverse

/-- The path along names from the root. -/
def ofNames (names : List String) : Path := names.foldl join root

theorem splitSlashes_of_noSlash {cs : List Char} (h : '/' ∉ cs) : splitSlashes cs = [cs] := by
  induction cs with
  | nil => rfl
  | cons c cs ih =>
    simp only [List.mem_cons, not_or] at h
    simp [splitSlashes, Ne.symm h.1, ih h.2]

end Path

end DeckDump.Compound
