import FixGrader.Text.Utf8

namespace FixGrader.Text.Bytes

def ofNats (bytes : List Nat) : String := String.ofList (bytes.map Char.ofNat)

def toNats (s : String) : List Nat := s.toList.map Char.toNat

def ofText (s : String) : String := ofNats (Utf8.encode s.toList)

/-- The text of bytes in UTF-8, with U+FFFD for what is none. -/
def toText (s : String) : String := Utf8.decodeLossy (toNats s)

end FixGrader.Text.Bytes
