import Gemtext.Table.Error

/-!
# Box-drawing glyphs

The fifteen characters that the rules of a table are drawn with.  A set of glyphs is chosen by
the name of a style, or given as a text of fifteen characters, or of four: horizontal line,
vertical line, crossing and header line, where the crossing serves as every junction.
-/

namespace Gemtext

/-- The characters that draw the rules of a table.  The junctions on the line under the header
have glyphs of their own. -/
structure Glyphs where
  horizontal : Char
  vertical : Char
  topLeft : Char
  topRight : Char
  bottomLeft : Char
  bottomRight : Char
  left : Char
  right : Char
  top : Char
  bottom : Char
  cross : Char
  headHorizontal : Char
  headLeft : Char
  headRight : Char
  headCross : Char
  deriving DecidableEq, Repr

namespace Glyphs

/-- The glyph set whose junctions are all the same crossing. -/
def ofFour (horizontal vertical cross headHorizontal : Char) : Glyphs :=
  ⟨horizontal, vertical, cross, cross, cross, cross, cross, cross, cross, cross, cross,
    headHorizontal, cross, cross, cross⟩

/-- The glyphs in the order of the fields. -/
def toList (g : Glyphs) : List Char :=
  [g.horizontal, g.vertical, g.topLeft, g.topRight, g.bottomLeft, g.bottomRight, g.left, g.right,
    g.top, g.bottom, g.cross, g.headHorizontal, g.headLeft, g.headRight, g.headCross]

/-- The glyph set that a text of four or fifteen characters describes. -/
def ofText : Text → Except TableError Glyphs
  | [horizontal, vertical, cross, headHorizontal] =>
    .ok (ofFour horizontal vertical cross headHorizontal)
  | [a, b, c, d, e, f, g, h, i, j, k, l, m, n, o] =>
    .ok ⟨a, b, c, d, e, f, g, h, i, j, k, l, m, n, o⟩
  | other => .error (.invalidStyle (.glyphCount other.length))

/-- Plain ASCII lines. -/
def ascii : Glyphs :=
  ofFour '-' '|' '+' '='

/-- The named styles. -/
def styles : List (String × String) :=
  [("bold", "━┃┏┓┗┛┣┫┳┻╋━┣┫╋"),
    ("default", "-|+="),
    ("ascii", "-|+="),
    ("double", "═║╔╗╚╝╠╣╦╩╬═╠╣╬"),
    ("very_light", "─│┌┐└┘├┤┬┴┼─├┤┼"),
    ("light", "─│┌┐└┘├┤┬┴┼═╞╡╪"),
    ("round", "─│╭╮╰╯├┤┬┴┼─├┤┼"),
    ("round2", "─│╭╮╰╯├┤┬┴┼═╞╡╪"),
    ("simple", "-|+-")]

/-- The glyph set of a named style. -/
def named (name : Text) : Except TableError Glyphs :=
  match styles.find? fun style => style.1.toList == name with
  | some style => ofText style.2.toList
  | none => .error (.invalidStyle (.unknownStyle name))

end Glyphs

end Gemtext
