set_option autoImplicit false

/-!
# Characters

The system takes texts that end at a NUL character, so no path, command or variable may have one. A
text of nothing but white space counts as missing.

## Main definitions

* `hasNul` — whether a text has a NUL character.
* `Blank.isBlankCharacter` — the characters that count as white space.
* `Blank.isBlank` — whether a text has no other character.
-/

namespace Compositor

/-- Whether a text has a NUL character. -/
def hasNul (text : String) : Bool :=
  text.toList.contains '\x00'

end Compositor

namespace Compositor.Blank

/-- The white space characters: tabs and line ends, spaces of any width, the line and paragraph
separators. -/
def isBlankCharacter (c : Char) : Bool :=
  let n := c.toNat
  (decide (0x09 ≤ n) && decide (n ≤ 0x0d)) || n == 0x20 || n == 0x85 || n == 0xa0 ||
    n == 0x1680 || (decide (0x2000 ≤ n) && decide (n ≤ 0x200a)) || n == 0x2028 || n == 0x2029 ||
    n == 0x202f || n == 0x205f || n == 0x3000

/-- Whether a text consists of white space. -/
def isBlank (s : String) : Bool :=
  s.toList.all isBlankCharacter

end Compositor.Blank
