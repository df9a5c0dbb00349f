import KeyNaming.Text.Basic

/-!
The UTF-8 form of text. Surrogates have none, so a text with a surrogate has
no UTF-8 form.
-/

namespace KeyNaming

/-- The bytes of a code point that is no surrogate. -/
def CodePoint.utf8? (c : CodePoint) : Option (List UInt8) :=
  let n := c.value
  let tail (shift : Nat) : UInt8 := (0x80 + (n >>> shift) % 64).toUInt8
  if c.isSurrogate then none
  else if n < 0x80 then some [n.toUInt8]
  else if n < 0x800 then some [(0xC0 + (n >>> 6)).toUInt8, tail 0]
  else if n < 0x10000 then some [(0xE0 + (n >>> 12)).toUInt8, tail 6, tail 0]
  else some [(0xF0 + (n >>> 18)).toUInt8, tail 12, tail 6, tail 0]

def Text.utf8? (t : Text) : Option (List UInt8) :=
  (t.mapM CodePoint.utf8?).map List.flatten

end KeyNaming
