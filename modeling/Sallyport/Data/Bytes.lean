/-
Words and texts as they lie in memory: words little-endian, exactly as many bytes as the word has,
texts in utf-8.
-/

namespace Sallyport.Bytes

/-- The four bytes of a word, least significant first. -/
def ofWord (w : UInt32) : List UInt8 :=
  [w.toUInt8, (w >>> 8).toUInt8, (w >>> 16).toUInt8, (w >>> 24).toUInt8]

/-- The word held by exactly four bytes. -/
def toWord? : List UInt8 → Option UInt32
  | [a, b, c, d] => some (a.toUInt32 ||| b.toUInt32 <<< 8 ||| c.toUInt32 <<< 16 ||| d.toUInt32 <<< 24)
  | _ => none

/-- The utf-8 bytes of a text. -/
def ofText (s : String) : List UInt8 := s.toUTF8.toList

end Sallyport.Bytes
