/-!
# Extracted text

The text found in a presentation: fragments in the order in which they were found. It is read
once, at the end, with each carriage return (the paragraph break of a presentation) turned into
a line feed.

* `contents_append`: a fragment is added at the end
* `normalized_noReturn`: no carriage return is left
-/

namespace DeckDump

/-- The fragments of text found so far, in order. -/
structure ExtractedText where
  fragments : Array String := #[]
deriving DecidableEq, Repr, Inhabited

namespace ExtractedText

/-- Adds a fragment at the end. -/
def append (t : ExtractedText) (fragment : String) : ExtractedText := ⟨t.fragments.push fragment⟩

/-- How many fragments there are. -/
def length (t : ExtractedText) : Nat := t.fragments.size

/-- Whether there is no fragment. -/
def isEmpty (t : ExtractedText) : Bool := t.fragments.isEmpty

/-- All fragments, one behind the other. -/
def contents (t : ExtractedText) : String := String.join t.fragments.toList

/-- The line feed in place of a carriage return, any other character as it is. -/
def lineFeed (c : Char) : Char := if c = '\r' then '\n' else c

/-- The contents with line feeds in place of carriage returns. -/
def normalized (t : ExtractedText) : String := String.ofList (t.contents.toList.map lineFeed)

theorem contents_append (t : ExtractedText) (fragment : String) :
    (t.append fragment).contents = t.contents ++ fragment := by
  simp [append, contents, String.join]

theorem normalized_noReturn (t : ExtractedText) : '\r' ∉ t.normalized.toList := by
  simp only [normalized, String.toList_ofList, List.mem_map, not_exists, not_and]
  intro c _
  simp only [lineFeed]
  split
  · decide
  · assumption

end ExtractedText

end DeckDump
