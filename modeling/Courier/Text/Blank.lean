/-!
# Blank text

A text is blank when every character of it is Unicode white space. The class is the `White_Space`
property: twenty-five characters, given as a table of ranges. Zero-width characters such as
U+200B and U+FEFF are not in it, so a text of them is not blank.

`isBlank_iff` says what the test decides, and `isSpace_of_isWhitespace` that the class extends the
ASCII one of the core library.
-/

set_option autoImplicit false
set_option relaxedAutoImplicit false

namespace Courier.Text

/-- The ranges of the `White_Space` property, in increasing order, both ends included. -/
def spaceRanges : List (Nat × Nat) :=
  [(0x09, 0x0D), (0x20, 0x20), (0x85, 0x85), (0xA0, 0xA0), (0x1680, 0x1680), (0x2000, 0x200A),
   (0x2028, 0x2029), (0x202F, 0x202F), (0x205F, 0x205F), (0x3000, 0x3000)]

/-- A character of the `White_Space` property. -/
def isSpace (c : Char) : Bool :=
  spaceRanges.any fun r => r.1 ≤ c.toNat && c.toNat ≤ r.2

/-- No character of the text stands out from white space; the empty text is blank. -/
def isBlank (s : String) : Bool := s.toList.all isSpace

/-- The characters from the first that is not white space on. -/
def dropSpaces (cs : List Char) : List Char := cs.dropWhile isSpace

theorem isBlank_iff (s : String) : isBlank s = true ↔ ∀ c ∈ s.toList, isSpace c = true := by
  simp [isBlank]

theorem isSpace_of_isWhitespace (c : Char) (h : c.isWhitespace = true) : isSpace c = true := by
  simp only [Char.isWhitespace, Bool.or_eq_true, decide_eq_true_eq] at h
  rcases h with ((h | h) | h) | h <;> subst h <;> decide

theorem dropSpaces_length_le (cs : List Char) : (dropSpaces cs).length ≤ cs.length := by
  simpa [dropSpaces] using (List.dropWhile_suffix isSpace (l := cs)).length_le

end Courier.Text
