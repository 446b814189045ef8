import ReviewChannel.Text.Utf8

/-!
Texts of octets: each character stands for one octet. Words, names and the content of files are such
texts where only their octets count.
-/

namespace ReviewChannel.Octets

def ofText (text : String) : List UInt8 :=
  text.toList.map fun c => c.toNat.toUInt8

def toText (octets : List UInt8) : String :=
  String.ofList (octets.map fun b => Char.ofNat b.toNat)

/-- The text of the octets of a text of characters. -/
def spell (text : String) : String :=
  toText (Utf8.encode text)

end ReviewChannel.Octets
