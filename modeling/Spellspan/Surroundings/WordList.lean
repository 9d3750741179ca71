import Spellspan.Engine.Transport
import Spellspan.Text.Bytes

/-!
An engine within the program that knows a list of words and reports every occurrence of one of them.
It is there to try the checker without a program of its own, and no part of the theory.
-/
set_option autoImplicit false

namespace Spellspan.Engine

structure WordEntry where
  word : String
  severity : Severity := .unknown
  suggestions : List Json := []

/-- Offsets at which a text starts within another one, without overlap, from the left. The first
text stands at `offset`; the characters to pass over belong to the occurrence found last. -/
def occurrencesFrom (word : List Char) : Nat → Nat → List Char → List Nat
  | offset, _, [] => if word.isEmpty then [offset] else []
  | offset, covered + 1, c :: rest => occurrencesFrom word (offset + c.utf8Size) covered rest
  | offset, 0, c :: rest =>
    if word.isPrefixOf (c :: rest) then offset :: occurrencesFrom word (offset + c.utf8Size)
      (word.length - 1) rest
    else occurrencesFrom word (offset + c.utf8Size) 0 rest

def wordIssues (text : List Char) (index : Nat) (range : Nat × Nat) (entry : WordEntry) :
    List EngineIssue :=
  let word := entry.word.toList
  let covered := (Text.slice? text range.1 range.2).getD []
  (occurrencesFrom word range.1 0 covered).map fun start => {
    rangeIndex := index, word := entry.word, start, stop := start + Text.byteLength word,
      severity := entry.severity
    suggestions := entry.suggestions }

/-- Reports the words of a list: range by range, word by word, from the left. -/
def wordListEngine (entries : List WordEntry) (request : EngineRequest) :
    Except TransportError EngineResponse :=
  let text := request.text.toList
  .ok {
    issues := request.ranges.zipIdx.flatMap fun (range, index) =>
      entries.flatMap (wordIssues text index range) }

end Spellspan.Engine
