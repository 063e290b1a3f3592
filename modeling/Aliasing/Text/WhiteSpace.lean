import Aliasing.Text.CharClass
/-!
# White space

The Unicode property White_Space: 25 characters, the space, the controls from U+0009 to U+000D,
U+0085, and the separators.
-/

namespace Aliasing

/-- The characters with the Unicode property White_Space. -/
def whiteSpace : CharClass where
  ranges := [
    (0x9, 0xD), (0x20, 0x20), (0x85, 0x85), (0xA0, 0xA0), (0x1680, 0x1680), (0x2000, 0x200A),
    (0x2028, 0x2029), (0x202F, 0x202F), (0x205F, 0x205F), (0x3000, 0x3000)]

example : whiteSpace.size = 25 := by decide

def isBlank (line : List Char) : Bool := line.all whiteSpace.contains

end Aliasing
