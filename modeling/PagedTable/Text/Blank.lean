import PagedTable.Text.CodeRange

/-! # Blank characters

Words of a filter and fields of a file end at blanks, which are the characters
with the White_Space property. -/

namespace PagedTable.Text

/-- The characters with the White_Space property. -/
def blankRanges : CodeRanges :=
  [(0x9, 0xd), (0x20, 0x20), (0x85, 0x85), (0xa0, 0xa0), (0x1680, 0x1680), (0x2000, 0x200a),
   (0x2028, 0x2029), (0x202f, 0x202f), (0x205f, 0x205f), (0x3000, 0x3000)]

def isBlank (char : Char) : Bool :=
  blankRanges.contain char

def trimBlanks (chars : List Char) : List Char :=
  ((chars.dropWhile isBlank).reverse.dropWhile isBlank).reverse

example : trimBlanks " a b\t".toList = "a b".toList := by decide

end PagedTable.Text
