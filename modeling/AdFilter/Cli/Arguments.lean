/-!
The arguments of the command line: an action, and switches behind it as `--name value`,
`--name=value`, or with a single letter as `-n value`, `-n=value` or `-nvalue`.
-/

namespace AdFilter.Cli

/-- Why arguments name nothing to do. -/
inductive Refusal
  /-- They ask for help. -/
  | help
  | misuse
  deriving DecidableEq

/-- A switch that an action knows. -/
structure Switch where
  name : String
  letter : Option Char
  takesValue : Bool
  repeats : Bool := false

/-- A switch that was given, with its value, which is empty for those that take none. -/
structure Given where
  name : String
  value : String

/-- The switches that stand before the action as well. -/
def commonSwitches : List Switch :=
  [⟨"verbose", some 'v', false, false⟩, ⟨"help", some 'h', false, false⟩]

/-- A switch without a value; the one for help ends the reading. -/
def givenAlone (switch : Switch) : Except Refusal Given :=
  if switch.name = "help" then .error .help else .ok ⟨switch.name, ""⟩

/-- The switches of one argument by their letters, and the last of them if it still lacks a value. -/
def readLetters (known : List Switch) : List Char → Except Refusal (List Given × Option Switch)
  | [] => .ok ([], none)
  | c :: rest =>
    match known.find? (·.letter == some c) with
    | none => .error .misuse
    | some switch =>
      if switch.takesValue then
        -- The value is all that follows the letter, or the next argument.
        match rest with
        | [] => .ok ([], some switch)
        | '=' :: value => .ok ([⟨switch.name, String.ofList value⟩], none)
        | value => .ok ([⟨switch.name, String.ofList value⟩], none)
      else do
        let given ← givenAlone switch
        let (others, pending) ← readLetters known rest
        return (given :: others, pending)

/-- The switch of one argument by its name and perhaps its value, or the switch that lacks one. -/
def readName (known : List Switch) (text : List Char) :
    Except Refusal (List Given × Option Switch) :=
  let name := text.takeWhile (· != '=')
  let value := (text.drop name.length).tail
  -- A value may be attached and empty.
  let attached := decide (name.length < text.length)
  match known.find? (·.name == String.ofList name) with
  | none => .error .misuse
  | some switch =>
    if switch.takesValue then
      if attached then .ok ([⟨switch.name, String.ofList value⟩], none)
      else .ok ([], some switch)
    -- A switch that takes no value must not be given one.
    else if attached then .error .misuse
    else (givenAlone switch).map fun given => ([given], none)

/-- The argument looks like a switch. -/
def isSwitch (argument : String) : Bool :=
  match argument.toList with
  | '-' :: _ :: _ => true
  | _ => false

/-- The switches of an argument, and the last of them if its value is the next argument. -/
def readSwitches (known : List Switch) (argument : String) :
    Except Refusal (List Given × Option Switch) :=
  match argument.toList with
  | '-' :: '-' :: name => readName known name
  | '-' :: c :: letters => readLetters known (c :: letters)
  | _ => .error .misuse

/-- All switches among arguments. Nothing else may stand there, but two hyphens at the end. -/
def readArguments (known : List Switch) : List String → Except Refusal (List Given)
  | [] => .ok []
  | ["--"] => .ok []
  | argument :: rest =>
    -- The argument behind a switch may be its value, unless it looks like a switch.
    match readSwitches known argument, rest with
    | .error refusal, _ => .error refusal
    | .ok (given, none), rest => (readArguments known rest).map (given ++ ·)
    | .ok (_, some _), [] => .error .misuse
    | .ok (given, some switch), value :: rest =>
      if isSwitch value then .error .misuse
      else (readArguments known rest).map fun others => given ++ ⟨switch.name, value⟩ :: others

/-- The switches of an action among arguments, those that may stand only once given once at most. -/
def readAction (own : List Switch) (arguments : List String) : Except Refusal (List Given) := do
  let known := own ++ commonSwitches
  let given ← readArguments known arguments
  let isTwice (switch : Switch) : Bool :=
    !switch.repeats && decide (2 ≤ given.countP fun other => other.name == switch.name)
  if known.any isTwice then throw .misuse
  return given

/-- The values of a switch. -/
def valuesOf (given : List Given) (name : String) : List String :=
  (given.filter (·.name == name)).map (·.value)

/-- The value of a switch that must be given. -/
def valueOf (given : List Given) (name : String) : Except Refusal String :=
  match valuesOf given name with
  | value :: _ => .ok value
  | [] => .error .misuse

end AdFilter.Cli
