/-!
Command lines in general. A command takes positional arguments, flags and options with a value; a
flag or an option has a long name, and may have a letter. Letters may be given together, and a value
may be attached to its option. Arguments are taken from left to right, and the first that cannot be
taken decides what is wrong. Command lines are an outer layer without results of its own.
-/
set_option autoImplicit false

namespace Spellspan.Command

inductive UsageError where
  | help
  | version
  | helpForNothing
  | missingCommand
  | unknownCommand
  | missingArgument
  | unknownArgument
  | conflict
  | invalidValue
  | unreadableValue
  | unexpectedValue
  deriving DecidableEq, Repr

inductive Action where
  | flag
  | value
  | help
  | version
  deriving DecidableEq, Repr

structure Parameter where
  name : String
  letter : Option Char := none
  action : Action := .value
  problem? : String → Option UsageError := fun _ => none

structure Signature where
  parameters : List Parameter
  /-- How many positional arguments are taken; without a limit when there is none. -/
  limit : Option Nat
  problem? : String → Option UsageError := fun _ => none

/-- What has been given, the values of options in the order of their names. -/
structure Given where
  flags : List String := []
  values : List (String × String) := []
  positional : List String := []
  deriving DecidableEq, Repr

/-- What waits for its end: an option for its value, or positional arguments for being looked at. -/
inductive Pending where
  | nothing
  | option (parameter : Parameter)
  | value (parameter : Parameter) (value : String)
  | positional (values : List String)

structure State where
  given : Given := {}
  pending : Pending := .nothing
  trailing : Bool := false

namespace Signature

def setValue (given : Given) (parameter : Parameter) (value : String) : Except UsageError Given :=
  if given.values.any fun entry => entry.1 == parameter.name then .error .conflict
  else
    match parameter.problem? value with
    | some problem => .error problem
    | none => .ok { given with values := given.values ++ [(parameter.name, value)] }

def settle (signature : Signature) (state : State) : Except UsageError Given :=
  match state.pending with
  | .nothing => .ok state.given
  | .option _ => .error .invalidValue
  | .value parameter value => setValue state.given parameter value
  | .positional values =>
    match values.findSome? signature.problem? with
    | some problem => .error problem
    | none => .ok { state.given with positional := state.given.positional ++ values }

def takeFlag (signature : Signature) (state : State) (parameter : Parameter) :
    Except UsageError State := do
  let given ← signature.settle state
  match parameter.action with
  | .help => .error .help
  | .version => .error .version
  | _ =>
    if given.flags.contains parameter.name then .error .conflict
    else .ok { state with given := { given with flags := given.flags ++ [parameter.name] }, pending := .nothing }

/-- Takes an option with the value that is attached to it, or waits for one. -/
def takeOption (signature : Signature) (state : State) (parameter : Parameter)
    (attached : Option String) :
    Except UsageError State := do
  let given ← signature.settle state
  match attached with
  | none => .ok { state with given, pending := .option parameter }
  | some value =>
    let given ← setValue given parameter value
    .ok { state with given, pending := .nothing }

def takeLong (signature : Signature) (state : State) (text : List Char) : Except UsageError State :=
  let name := text.takeWhile (· != '=')
  let attached := match text.drop name.length with
    | [] => none
    | _ :: value => some (String.ofList value)
  match signature.parameters.find? fun parameter => parameter.name == String.ofList name with
  | none => .error .unknownArgument
  | some parameter =>
    if parameter.action = .value then signature.takeOption state parameter attached
    else if attached.isSome then .error .unexpectedValue
    else signature.takeFlag state parameter

/-- Takes letters. What follows the letter of an option is its value. -/
def takeLetters (signature : Signature) (state : State) : List Char → Except UsageError State
  | [] => .ok state
  | letter :: rest =>
    match signature.parameters.find? fun parameter => parameter.letter == some letter with
    | none => .error .unknownArgument
    | some parameter =>
      if parameter.action = .value then
        let attached := match rest with
          | [] => none
          | '=' :: value => some (String.ofList value)
          | value => some (String.ofList value)
        signature.takeOption state parameter attached
      else
        match signature.takeFlag state parameter with
        | .error error => .error error
        | .ok state => signature.takeLetters state rest

def takePositional (signature : Signature) (state : State) (text : String) :
    Except UsageError State :=
  match state.pending with
  | .positional values =>
    if signature.limit.any (· ≤ state.given.positional.length + values.length) then
      .error .unknownArgument
    else .ok { state with pending := .positional (values ++ [text]) }
  | _ =>
    if signature.limit.any (· ≤ state.given.positional.length) then .error .unknownArgument
    else do
      let given ← signature.settle state
      .ok { state with given, pending := .positional [text] }

def take (signature : Signature) (state : State) (text : String) : Except UsageError State :=
  if state.trailing then signature.takePositional state text
  else
    match text.toList, state.pending with
    | ['-', '-'], _ => .ok { state with trailing := true }
    | '-' :: '-' :: name, _ => signature.takeLong state name
    | '-' :: letter :: letters, _ => signature.takeLetters state (letter :: letters)
    | _, .option parameter => .ok { state with pending := .value parameter text }
    | _, _ => signature.takePositional state text

def parse (signature : Signature) (arguments : List String) : Except UsageError Given := do
  let state ← arguments.foldlM signature.take {}
  signature.settle state

end Signature
end Spellspan.Command
