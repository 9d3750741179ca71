/-!
Cutting a text at its separators. The pieces between separators are kept even when they are empty,
so there is always one piece more than there are separators.
-/
set_option autoImplicit false

namespace Spellspan.Text

def extendFirst (c : Char) : List (List Char) → List (List Char)
  | [] => [[c]]
  | piece :: rest => (c :: piece) :: rest

/-- The pieces of a text between the characters that satisfy `separates`. -/
def pieces (separates : Char → Bool) : List Char → List (List Char)
  | [] => [[]]
  | c :: rest => if separates c then [] :: pieces separates rest
      else extendFirst c (pieces separates rest)

def piecesOf (separator : Char) (text : String) : List String :=
  (pieces (· == separator) text.toList).map String.ofList

def joined (separator : String) : List String → String
  | [] => ""
  | [text] => text
  | text :: next :: rest => text ++ separator ++ joined separator (next :: rest)

end Spellspan.Text
