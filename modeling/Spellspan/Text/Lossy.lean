/-!
Texts from bytes that need not be UTF-8. Every longest beginning of an encoded character that is not
completed gives one replacement, and so does every byte that begins none.
-/
set_option autoImplicit false

namespace Spellspan.Text

/-- A character of which some bytes are still to come. -/
structure PendingChar where
  value : Nat
  following : Nat
  low : Nat
  high : Nat

def startChar (replacement : List Char) (byte : Nat) : List Char × Option PendingChar :=
  if byte < 0x80 then ([Char.ofNat byte], none)
  else if byte < 0xc2 then (replacement, none)
  else if byte < 0xe0 then ([], some ⟨byte - 0xc0, 0, 0x80, 0xbf⟩)
  else if byte = 0xe0 then ([], some ⟨0, 1, 0xa0, 0xbf⟩)
  else if byte = 0xed then ([], some ⟨byte - 0xe0, 1, 0x80, 0x9f⟩)
  else if byte < 0xf0 then ([], some ⟨byte - 0xe0, 1, 0x80, 0xbf⟩)
  else if byte = 0xf0 then ([], some ⟨0, 2, 0x90, 0xbf⟩)
  else if byte < 0xf4 then ([], some ⟨byte - 0xf0, 2, 0x80, 0xbf⟩)
  else if byte = 0xf4 then ([], some ⟨4, 2, 0x80, 0x8f⟩)
  else (replacement, none)

def continueChar (replacement : List Char) (pending : PendingChar) (byte : Nat) :
    List Char × Option PendingChar :=
  if pending.low ≤ byte ∧ byte ≤ pending.high then
    let value := pending.value * 64 + (byte - 0x80)
    match pending.following with
    | 0 => ([Char.ofNat value], none)
    | following + 1 => ([], some ⟨value, following, 0x80, 0xbf⟩)
  else
    let (chars, next) := startChar replacement byte
    (replacement ++ chars, next)

def charsFrom (replacement : List Char) : Option PendingChar → List UInt8 → List Char
  | none, [] => []
  | some _, [] => replacement
  | none, byte :: rest =>
    let (chars, next) := startChar replacement byte.toNat
    chars ++ charsFrom replacement next rest
  | some pending, byte :: rest =>
    let (chars, next) := continueChar replacement pending byte.toNat
    chars ++ charsFrom replacement next rest

/-- The text of some bytes, with a replacement for what is no UTF-8. -/
def decodedWith (replacement : List Char) (bytes : ByteArray) : String :=
  String.ofList (charsFrom replacement none bytes.toList)

def lossy (bytes : ByteArray) : String :=
  decodedWith ['\ufffd'] bytes

end Spellspan.Text
