import Crosstab.Text.PrintableTable

/-!
# Visible characters

A character may be shown as itself if it has a visible form.

Models `isprintable`.
-/

namespace Crosstab.Text

/-- Whether the character may be shown as itself; the space may. -/
def isPrintable (c : Char) : Bool :=
  if c.toNat < 127 then 32 ≤ c.toNat else !inRanges unprintableRanges c

end Crosstab.Text
