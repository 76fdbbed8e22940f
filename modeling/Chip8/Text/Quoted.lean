import Chip8.Text
import Chip8.Text.Hex
import Chip8.Text.Printable
/-!
Quoted text as messages show it.  The quote is `'`, unless the text holds that
quote and no `"`.  Code points that cannot be shown are written in two, four
or eight hexadecimal digits.
-/

namespace Chip8.Text

/-- A code point after a backslash and a letter that tells the number of its digits. -/
def escapedPoint (point : Nat) : Text :=
  let (mark, width) :=
    if point < 0x100 then ("\\x", 2) else if point < 0x10000 then ("\\u", 4) else ("\\U", 8)
  mark ++ HexLayout.render ⟨false, false, width⟩ point

def quotedPoint (quote point : Nat) : Text :=
  if point = quote ∨ point = '\\'.toNat then ⟨['\\'.toNat, point]⟩
  else if point = '\t'.toNat then "\\t"
  else if point = '\n'.toNat then "\\n"
  else if point = '\r'.toNat then "\\r"
  else if isPrintable point then ⟨[point]⟩
  else escapedPoint point

def quoteFor (text : Text) : Nat :=
  if text.points.contains '\''.toNat && !text.points.contains '"'.toNat then '"'.toNat
  else '\''.toNat

def quoted (text : Text) : Text :=
  let quote := quoteFor text
  ⟨quote :: text.points.flatMap (fun point => (quotedPoint quote point).points) ++ [quote]⟩

end Chip8.Text
