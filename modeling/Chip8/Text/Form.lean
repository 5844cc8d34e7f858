import Chip8.Text.Property.Invisible
import Chip8.Text.Property.Joining
import Chip8.Text.Property.Unassigned

/-! # Characters with a form of their own

    Most characters can be shown by themselves. Those cannot that steer, keep a distance or may be
    passed over, those that join the character before them, and code points without a character. -/

namespace Chip8.Text

/-- Can the character be shown by itself? -/
def hasForm (c : Char) : Bool :=
  !(inRanges controls c || inRanges blanks c || inRanges ignorable c || inRanges joining c ||
    inRanges unassigned c)

end Chip8.Text
