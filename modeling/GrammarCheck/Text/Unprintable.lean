import GrammarCheck.Text.CaseContext
import GrammarCheck.Text.Category

/-!
# Characters that quoted text spells out

Quoted text shows a character as itself only if a reader can see it as a character of its own.
`isUnprintable` singles out the others: control and format characters, private-use and unassigned
code points, separators other than the space, the marks that are drawn upon the character before
them, and the fillers, letters that leave nothing but a blank.
-/

namespace GrammarCheck.Text

/-- The categories of the characters that can be seen. -/
def visibleCategories : List Category :=
  Category.letters ++ [.spacingMark] ++ Category.numbers ++ Category.punctuation
    ++ Category.symbols

/-- The marks that take room and still belong to the character before them. -/
def extendingMarks : List (Nat × Nat) :=
  [(0x09be, 0x09be), (0x09d7, 0x09d7), (0x0b3e, 0x0b3e), (0x0b57, 0x0b57), (0x0bbe, 0x0bbe),
   (0x0bd7, 0x0bd7), (0x0cc0, 0x0cc0), (0x0cc2, 0x0cc2), (0x0cc7, 0x0cc8), (0x0cca, 0x0ccb),
   (0x0cd5, 0x0cd6), (0x0d3e, 0x0d3e), (0x0d57, 0x0d57), (0x0dcf, 0x0dcf), (0x0ddf, 0x0ddf),
   (0x1715, 0x1715), (0x1734, 0x1734), (0x1b35, 0x1b35), (0x1b3b, 0x1b3b), (0x1b3d, 0x1b3d),
   (0x1b43, 0x1b44), (0x1baa, 0x1baa), (0x1bf2, 0x1bf3), (0x302e, 0x302f), (0xa953, 0xa953),
   (0xa9c0, 0xa9c0), (0x111c0, 0x111c0), (0x11235, 0x11235), (0x1133e, 0x1133e), (0x1134d, 0x1134d),
   (0x11357, 0x11357), (0x113b8, 0x113b8), (0x113c2, 0x113c2), (0x113c5, 0x113c5),
   (0x113c7, 0x113c9), (0x113cf, 0x113cf), (0x114b0, 0x114b0), (0x114bd, 0x114bd),
   (0x115af, 0x115af), (0x116b6, 0x116b6), (0x11930, 0x11930), (0x1193d, 0x1193d),
   (0x11f41, 0x11f41), (0x16ff0, 0x16ff1), (0x1d165, 0x1d166), (0x1d16d, 0x1d172)]

/-- The fillers among the letters. -/
def fillers : List (Nat × Nat) :=
  [(0x115f, 0x1160), (0x3164, 0x3164), (0xffa0, 0xffa0)]

/-- The character cannot stand for itself in quoted text. In ASCII these are the control
characters. -/
def isUnprintable (c : Char) : Bool :=
  if c.toNat < 128 then decide (c.toNat < 32) || c.toNat == 127
  else
    !visibleCategories.any (·.has c.toNat)
      || inIntervals extendingMarks c.toNat
      || inIntervals fillers c.toNat

end GrammarCheck.Text
