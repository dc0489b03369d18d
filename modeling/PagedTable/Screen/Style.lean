/-! # Styles

A style colors the text and the ground behind it and may mark the text. What a
style leaves open shows what lies below. -/

namespace PagedTable

inductive Color where
  | black
  | yellow
  | blue
  | magenta
  | cyan
  | white
  | darkGray
  | lightBlue
deriving DecidableEq, Repr

def Color.name : Color → String
  | .black => "Black"
  | .yellow => "Yellow"
  | .blue => "Blue"
  | .magenta => "Magenta"
  | .cyan => "Cyan"
  | .white => "White"
  | .darkGray => "DarkGray"
  | .lightBlue => "LightBlue"

structure Style where
  ink : Option Color := none
  ground : Option Color := none
  bold : Bool := false
  underlined : Bool := false
  reversed : Bool := false
deriving DecidableEq, Repr

namespace Style

def onto (upper lower : Style) : Style where
  ink := upper.ink.or lower.ink
  ground := upper.ground.or lower.ground
  bold := upper.bold || lower.bold
  underlined := upper.underlined || lower.underlined
  reversed := upper.reversed || lower.reversed

def marks (style : Style) : List String :=
  [("BOLD", style.bold), ("UNDERLINED", style.underlined), ("REVERSED", style.reversed)].filterMap
    fun entry => if entry.2 then some entry.1 else none

theorem onto_plain (style : Style) : style.onto {} = style := by
  simp [onto]

end Style

end PagedTable
