/-!
# Blank characters and trimming

Blanks are the characters with the Unicode White_Space property: the ASCII controls from tab
to carriage return, the space, next line, no-break space, and the wider spaces, line and
paragraph separators above them. Trimming removes blanks from one or both ends of a text.
-/

namespace ForexJournal

/-- The character has the Unicode White_Space property. -/
def isBlank (c : Char) : Bool :=
  let n := c.toNat
  (0x09 ≤ n && n ≤ 0x0D) || n == 0x20 || n == 0x85 || n == 0xA0 || n == 0x1680 ||
    (0x2000 ≤ n && n ≤ 0x200A) || n == 0x2028 || n == 0x2029 || n == 0x202F ||
    n == 0x205F || n == 0x3000

def trimBlankStart (cs : List Char) : List Char := cs.dropWhile isBlank

def trimBlank (s : String) : String :=
  String.ofList (((s.toList.dropWhile isBlank).reverse.dropWhile isBlank).reverse)

theorem isBlank_of_isWhitespace {c : Char} (h : c.isWhitespace = true) : isBlank c = true := by
  simp only [Char.isWhitespace, Bool.or_eq_true, decide_eq_true_eq] at h
  simp only [isBlank, Char.toNat, Bool.or_eq_true, Bool.and_eq_true, beq_iff_eq,
    decide_eq_true_eq]
  rcases h with ((h | h) | h) | h <;> subst h <;> decide

end ForexJournal
