import ComponentTags.Text.CharSet

/-!
# Blank characters

The white space of Unicode: what separates attributes in a self-closing tag and around the colon of
a declared name, and what a text node must consist of to be dropped.
-/

namespace ComponentTags.Text

/-- The characters with the property White_Space. -/
def blanks : CharSet := ⟨[
    (0x9, 0xD), (0x20, 0x20), (0x85, 0x85), (0xA0, 0xA0), (0x1680, 0x1680), (0x2000, 0x200A),
    (0x2028, 0x2029), (0x202F, 0x202F), (0x205F, 0x205F), (0x3000, 0x3000)]⟩

/-- Whether the character is white space. -/
def isBlank (c : Char) : Bool :=
  blanks.contains c

/-- Whether a text holds nothing but white space. -/
def isAllBlank (s : String) : Bool :=
  s.toList.all isBlank

end ComponentTags.Text
