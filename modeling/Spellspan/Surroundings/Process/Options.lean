import Spellspan.Surroundings.Process.Outcome

/-!
Options of programs: letters behind a dash, and words behind two. They may stand anywhere among the
operands, up to two dashes alone.
-/
set_option autoImplicit false

namespace Spellspan.Process

structure OptionTable where
  program : String
  letters : List Char
  words : List (String × Char)

namespace OptionTable

inductive Refusal where
  | complaint (text : String)
  | question

def questions : List String :=
  ["help", "version"]

def letterOf (table : OptionTable) (option : String) : Except Refusal Char :=
  let chars := option.toList
  let name := String.ofList (chars.takeWhile (· != '='))
  let words := table.words.map Prod.fst ++ questions
  let found := if words.contains name then [name] else words.filter fun word =>
    name.toList.isPrefixOf word.toList
  let letters := (found.map fun word => table.words.lookup word).eraseDups
  match found, letters with
  | [], _ => .error (.complaint s!"unrecognized option '--{option}'")
  | word :: _, [letter] =>
    if chars.contains '=' then .error (.complaint s!"option '--{word}' doesn't allow an argument")
    else match letter with
      | some letter => .ok letter
      | none => .error .question
  | _, _ =>
    let possibilities := String.join (found.map fun word => s!" '--{word}'")
    .error (.complaint s!"option '--{option}' is ambiguous; possibilities:{possibilities}")

def lettersOf? (table : OptionTable) (argument : String) : Option (Except Refusal (List Char)) :=
  match argument.toList with
  | '-' :: '-' :: option =>
      some ((table.letterOf (String.ofList option)).map fun letter => [letter])
  | '-' :: first :: rest =>
    some (match (first :: rest).find? fun letter => !table.letters.contains letter with
      | some letter => .error (.complaint s!"invalid option -- '{letter}'")
      | none => .ok (first :: rest))
  | _ => none

/-- The options and the operands among the arguments of a program. -/
def read (table : OptionTable) : List String → Except Refusal (List Char × List String)
  | [] => .ok ([], [])
  | "--" :: rest => .ok ([], rest)
  | argument :: rest =>
    match table.lettersOf? argument with
    | none => (table.read rest).map fun (letters, operands) => (letters, argument :: operands)
    | some (.error refusal) => .error refusal
    | some (.ok found) => (table.read rest).map fun (letters, operands) =>
        (found ++ letters, operands)

def misused (table : OptionTable) (stdin : ByteArray) (complaints : List String) : Outcome :=
  let lines := complaints.map fun complaint => s!"{table.program}: {complaint}\n"
  .failure stdin (String.join lines ++ s!"Try '{table.program} --help' for more information.")

def run (table : OptionTable) (arguments : List String) (stdin : ByteArray)
    (program : List Char → List String → Outcome) :
    Outcome :=
  match table.read arguments with
  | .error (.complaint text) => table.misused stdin [text]
  | .error .question => .printing stdin s!"Usage: {table.program} [OPTION]...\n"
  | .ok (letters, operands) => program letters operands

end OptionTable
end Spellspan.Process
