import Spellspan.Diagnostic
import Spellspan.Engine.Transport
import Spellspan.Select.Range
import Std.Data.HashSet

/-!
All ranges of a file in one exchange. Ranges are queued once each, sent in the order of their
offsets, and of the issues that come back only those are kept that stay within the range they name.
-/
set_option autoImplicit false

namespace Spellspan.Engine

open Select (CheckRange)
open Spellspan.Tree (Span)

/-- The ranges queued so far, in the order in which they were found, and the keys that were seen. -/
structure Batch where
  ranges : List CheckRange
  seen : Std.HashSet (Nat × Nat)
  mem_seen : ∀ key, key ∈ seen ↔ ∃ range ∈ ranges, range.key = key

/-- What came back for one file. -/
structure BatchOutcome where
  ranges : List CheckRange := []
  issues : List EngineIssue := []
  errors : List EngineError := []
  diagnostics : List Diagnostic := []
  dispatched : Bool := false

namespace Batch

def empty : Batch where
  ranges := []
  seen := ∅
  mem_seen key := by
    simp only [Std.HashSet.not_mem_empty, List.not_mem_nil, false_and, exists_false]

/-- Whether a range can be queued: it is not empty, and its key was not seen. -/
def accepts (batch : Batch) (range : CheckRange) : Bool :=
  !range.span.isEmpty && !batch.seen.contains range.key

theorem mem_seen_insert (batch : Batch) (added : CheckRange) (key : Nat × Nat) :
    key ∈ batch.seen.insert added.key ↔ ∃ range ∈ batch.ranges ++ [added], range.key = key := by
  simp only [Std.HashSet.mem_insert, beq_iff_eq, batch.mem_seen key, List.mem_append,
    List.mem_singleton, or_and_right, exists_or, exists_eq_left]
  exact or_comm

def push (batch : Batch) (range : CheckRange) : Batch :=
  if batch.accepts range then
    { ranges := batch.ranges ++ [range]
      seen := batch.seen.insert range.key
      mem_seen := batch.mem_seen_insert range }
  else batch

def ofRanges (ranges : List CheckRange) : Batch :=
  ranges.foldl push empty

/-- The ranges by start, then by end. -/
def sorted (batch : Batch) : List CheckRange :=
  batch.ranges.mergeSort fun left right => !right.span.precedes left.span

end Batch

def issueProblem? (ranges : List CheckRange) (size : Nat) (issue : EngineIssue) :
    Option Diagnostic :=
  match ranges[issue.rangeIndex]? with
  | none =>
    some {
      kind := .engine
      message :=
        s!"issue {Text.quoted issue.word} refers to range {issue.rangeIndex} but only {ranges.length} were sent" }
  | some range =>
    let span : Span := ⟨issue.start, issue.stop⟩
    if span.stop < span.start || size < span.stop || !range.span.contains span then
      some {
        kind := .engine
        message := s!"issue {Text.quoted issue.word} at {span.render} lies outside range {range.span.render}"
        node := some range.originNode
        span := some range.span }
    else none

def BatchOutcome.ofResponse (ranges : List CheckRange) (size : Nat) (response : EngineResponse) :
    BatchOutcome where
  ranges := ranges
  issues := response.issues.filter fun issue => (issueProblem? ranges size issue).isNone
  errors := response.errors
  diagnostics := response.issues.filterMap (issueProblem? ranges size)
  dispatched := true

/-- Sends the queued ranges in one exchange; without ranges there is none. -/
def Batch.dispatch {m : Type → Type} [Monad m] (batch : Batch) (filename : String)
    (text : List Char) (options : EngineOptions) (transport : Transport m) :
    m (Except TransportError BatchOutcome) := do
  let ranges := batch.sorted
  if ranges.isEmpty then return .ok {}
  let answer ← transport.exchange {
    filename, text := String.ofList text, ranges := ranges.map CheckRange.key, options }
  return answer.map (BatchOutcome.ofResponse ranges (Text.byteLength text))

end Spellspan.Engine
