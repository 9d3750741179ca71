/-!
Texts with one character for every byte. Programs pass on bytes and give a meaning to some of them;
written as texts they can be taken apart like any other.
-/
set_option autoImplicit false

namespace Spellspan.Process

def textOfBytes (bytes : ByteArray) : String :=
  String.ofList (bytes.toList.map fun byte => Char.ofNat byte.toNat)

def bytesOfText (text : String) : ByteArray :=
  ⟨(text.toList.map fun c => UInt8.ofNat c.toNat).toArray⟩

def byteText (text : String) : String :=
  textOfBytes text.toUTF8

/-- The name that some bytes stand for. Bytes that are no text are the name of nothing. -/
def nameOfText (text : String) : String :=
  (String.fromUTF8? (bytesOfText text)).getD "\x00"

end Spellspan.Process
