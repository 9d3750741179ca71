/-!
Scripts of the shell: commands, and the words in them before they are expanded. All texts have one
character for every byte. The shell is part of the surroundings.
-/
set_option autoImplicit false

namespace Spellspan.Process

inductive Fallback where
  | substitute
  | assign
  | complain
  | replace
  deriving DecidableEq, Repr

inductive RedirectionKind where
  | read
  | write
  | clobber
  | append
  | readWrite
  | duplicateInput
  | duplicateOutput
  deriving DecidableEq, Repr

mutual

/-- A part of a word. In quotes it is not split and holds no patterns. -/
inductive Part where
  | text (isQuoted : Bool) (chars : List Char)
  | parameter (isQuoted : Bool) (name : String) (operation : Operation)
  | command (isQuoted : Bool) (body : Command)
  | arithmetic (isQuoted : Bool) (expression : List Part)

inductive Operation where
  | value
  | length
  | fallback (kind : Fallback) (ifEmpty : Bool) (word : List Part)
  | trim (atEnd longest : Bool) (pattern : List Part)
  | unknown

inductive Redirection where
  | target (descriptor : Nat) (kind : RedirectionKind) (word : List Part)
  | document (descriptor number : Nat)

inductive Command where
  | empty
  | simple (line : Nat) (assignments : List (String × List Part)) (words : List (List Part))
      (redirections : List Redirection)
  | pipeline (commands : List Command) (isBackground : Bool)
  | both (first second : Command)
  | either (first second : Command)
  | sequence (commands : List Command)
  | negation (command : Command)
  | background (line : Nat) (command : Command) (redirections : List Redirection)
  | subshell (line : Nat) (body : Command) (redirections : List Redirection)
  | redirected (line : Nat) (body : Command) (redirections : List Redirection)
  | conditional (test body : Command) (otherwise : Command)
  | loop (isUntil : Bool) (test body : Command)
  | iteration (line : Nat) (name : String) (words : List (List Part)) (body : Command)
  | selection (line : Nat) (word : List Part) (branches : List (List (List Part) × Command))
  | function (line : Nat) (name : String) (body : Command)

end

abbrev Word := List Part

instance : Inhabited Command := ⟨.empty⟩

def Part.isQuoted : Part → Bool
  | .text isQuoted _ => isQuoted
  | .parameter isQuoted _ _ => isQuoted
  | .command isQuoted _ => isQuoted
  | .arithmetic isQuoted _ => isQuoted

def plainText? : Word → Option (List Char)
  | [] => some []
  | .text _ chars :: rest => (plainText? rest).map (chars ++ ·)
  | _ :: _ => none

def isQuotedWord (word : Word) : Bool :=
  word.any Part.isQuoted

end Spellspan.Process
