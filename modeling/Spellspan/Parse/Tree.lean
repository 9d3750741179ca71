import Spellspan.Tree.Span

/-!
Concrete parses: every token and every phrase of a source text, nested as the grammar nests them. A
child may stand in a named field of its parent; punctuation and keywords are unnamed.
-/
set_option autoImplicit false

namespace Spellspan

/-- A phrase or token of a source text. -/
inductive ParseTree where
  | mk (field : Option String) (kind : String) (named : Bool) (span : Tree.Span)
      (children : List ParseTree)

namespace ParseTree

def field : ParseTree → Option String
  | .mk field _ _ _ _ => field

def kind : ParseTree → String
  | .mk _ kind _ _ _ => kind

def named : ParseTree → Bool
  | .mk _ _ named _ _ => named

def span : ParseTree → Tree.Span
  | .mk _ _ _ span _ => span

def children : ParseTree → List ParseTree
  | .mk _ _ _ _ children => children

def namedChildren (tree : ParseTree) : List ParseTree :=
  tree.children.filter named

def childIn? (tree : ParseTree) (field : String) : Option ParseTree :=
  tree.children.find? fun child => child.field == some field

def hasToken (tree : ParseTree) (token : String) : Bool :=
  tree.children.any fun child => !child.named && child.kind == token

mutual

def size : ParseTree → Nat
  | .mk _ _ _ _ children => sizes children + 1

def sizes : List ParseTree → Nat
  | [] => 0
  | tree :: rest => size tree + sizes rest

end

theorem size_eq (tree : ParseTree) : tree.size = sizes tree.children + 1 := by
  cases tree with
  | mk => simp only [size, children]

theorem sizes_append (first second : List ParseTree) :
    sizes (first ++ second) = sizes first + sizes second := by
  induction first with
  | nil => simp only [List.nil_append, sizes, Nat.zero_add]
  | cons tree rest ih => simp only [List.cons_append, sizes, ih, Nat.add_assoc]

theorem sizes_filter_le (keep : ParseTree → Bool) (trees : List ParseTree) :
    sizes (trees.filter keep) ≤ sizes trees := by
  induction trees with
  | nil => exact Nat.le_refl _
  | cons tree rest ih =>
    rw [List.filter_cons]
    split
    · simp only [sizes]
      omega
    · simp only [sizes]
      omega

theorem sizes_namedChildren_lt (tree : ParseTree) : sizes tree.namedChildren < tree.size := by
  have smaller := sizes_filter_le named tree.children
  rw [size_eq, namedChildren]
  omega

/-- One line of a parse listed in preorder: how deep it lies, and the phrase without its children.
-/
structure Row where
  depth : Nat
  field : Option String
  kind : String
  named : Bool
  span : Tree.Span

/-- Puts a row before the parses that follow it: those that lie deeper become its children. -/
def place (row : Row) (following : List (Nat × ParseTree)) : List (Nat × ParseTree) :=
  let below := following.takeWhile fun entry => row.depth < entry.1
  (row.depth, .mk row.field row.kind row.named row.span (below.map Prod.snd)) ::
    following.drop below.length

/-- The parse that a list of rows describes: the first row with all that lies below it. -/
def ofRows? (rows : List Row) : Option ParseTree :=
  ((rows.reverse.foldl (fun following row => place row following) []).head?).map Prod.snd

end ParseTree
end Spellspan
