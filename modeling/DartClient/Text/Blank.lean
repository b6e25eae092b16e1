/-!
# Blank characters

The characters of the Unicode property White_Space, and texts without those at the end.

## Main definitions

* `isBlank`: whether a character is blank.
* `trimEnd`: a text without blank characters at the end.
-/

namespace DartClient.Text

/-- The codes of the blank characters above the ASCII range. -/
def blankCodes : List Nat :=
  [0x85, 0xA0, 0x1680, 0x2000, 0x2001, 0x2002, 0x2003, 0x2004, 0x2005, 0x2006, 0x2007, 0x2008,
   0x2009, 0x200A, 0x2028, 0x2029, 0x202F, 0x205F, 0x3000]

/-- Whether a character is blank: a space, a tab, the end of a line or page, or a blank character
above the ASCII range. -/
def isBlank (c : Char) : Bool :=
  c == ' ' || (9 ≤ c.toNat && c.toNat ≤ 13) || blankCodes.contains c.toNat

/-- Every character that the core library takes for blank is blank. -/
theorem isBlank_of_isWhitespace (c : Char) (h : c.isWhitespace = true) : isBlank c = true := by
  simp only [Char.isWhitespace, Bool.or_eq_true, decide_eq_true_eq] at h
  rcases h with ((rfl | rfl) | rfl) | rfl <;> decide

/-- A text without the blank characters at its end. -/
def trimEnd (text : String) : String :=
  String.ofList (text.toList.reverse.dropWhile isBlank).reverse

end DartClient.Text
