/-!
# White space

The characters Unicode calls white space, and text without the white space at its end.

* `trimEnd_of_not_space`: text whose last character is not white space stays as it is
* `mem_trimEnd`: trimming adds no character
-/

namespace DeckDump.Text

/-- The white space characters of Unicode. -/
def isWhiteSpace (c : Char) : Bool :=
  let n := c.toNat
  (0x9 ≤ n && n ≤ 0xD) || n == 0x20 || n == 0x85 || n == 0xA0 || n == 0x1680 ||
    (0x2000 ≤ n && n ≤ 0x200A) || n == 0x2028 || n == 0x2029 || n == 0x202F || n == 0x205F || n == 0x3000

/-- The characters of `cs` up to the last one that is not white space. -/
def trimEndChars (cs : List Char) : List Char :=
  (cs.reverse.dropWhile isWhiteSpace).reverse

/-- Text without the white space at its end. -/
def trimEnd (s : String) : String := String.ofList (trimEndChars s.toList)

theorem trimEnd_of_not_space (cs : List Char) (c : Char) (h : isWhiteSpace c = false) :
    trimEndChars (cs ++ [c]) = cs ++ [c] := by
  simp [trimEndChars, h]

theorem mem_trimEnd {c : Char} {s : String} (h : c ∈ (trimEnd s).toList) : c ∈ s.toList := by
  simp only [trimEnd, String.toList_ofList, trimEndChars, List.mem_reverse] at h
  simpa using (List.dropWhile_sublist isWhiteSpace).subset h

end DeckDump.Text
