/-!
# Texts cut to a number of bytes

Logged statements are cut to a length in UTF-8 bytes.  A cut never splits a character: if the limit
falls into one, the place of the cut is moved back, byte by byte, to where the character starts.

## Main definitions

* `cutPos` : the place at which a text is cut.
* `truncated` : a text, cut if it is too long; an ellipsis shows the cut.
-/

namespace EntitySql.Text

/-- The place at which a text is cut: the given offset if it lies between two characters, and
otherwise the place that is found from the byte before it. -/
def cutPos (s : String) : Nat → s.Pos
  | 0 => s.startPos
  | offset + 1 =>
      if h : String.Pos.Raw.IsValid s ⟨offset + 1⟩ then ⟨⟨offset + 1⟩, h⟩ else cutPos s offset

/-- The text itself if it fits into the limit, and otherwise its start and an ellipsis.  Without a
limit every text fits. -/
def truncated (limit : Option Nat) (s : String) : String :=
  match limit with
  | none => s
  | some bytes =>
      if s.utf8ByteSize ≤ bytes then s else (s.sliceTo (cutPos s bytes)).copy ++ "..."

end EntitySql.Text
