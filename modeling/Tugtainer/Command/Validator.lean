import Tugtainer.Python.IpAddress
import Tugtainer.Python.Dict

/-!
# The allowlist of docker commands

`commandValidator` decides which commands the agent runs. The only schema is
`network connect` with the flags `--alias`, `--ip` and `--ip6`, each followed by
a value, and then two positional arguments, the network and the container.
-/

namespace Tugtainer

open Python

/-- The errors that `commandValidator` raises, with what their texts quote. -/
inductive CommandError where
  /-- `Empty command` -/
  | emptyCommand
  /-- `Command not allowed: …` -/
  | notAllowed (cmd : List String)
  /-- `Flag … must come before positional args` -/
  | flagAfterPositional (part : String)
  /-- `Unknown flag: …` -/
  | unknownFlag (part : String)
  /-- `Flag … requires value` -/
  | flagRequiresValue (part : String)
  /-- `Expected … positional args, got …` -/
  | positionalCount (expected got : ℕ)
  /-- `Invalid docker identifier: …` -/
  | invalidName (value : String)
  /-- `Invalid alias: …` -/
  | invalidAlias (value : String)
  /-- the error of `ip_address` -/
  | invalidIp (value : String)
  deriving DecidableEq, Repr

/-- A check of one value. -/
abbrev Validator := String → Except CommandError Unit

/-- `[a-zA-Z0-9]`. -/
def isAlnum (c : Char) : Bool :=
  isDigit c || ('a' ≤ c && c ≤ 'z') || ('A' ≤ c && c ≤ 'Z')

/-- `[a-zA-Z0-9_.-]`. -/
def isNameChar (c : Char) : Bool :=
  isAlnum c || c == '_' || c == '.' || c == '-'

/-- `[a-zA-Z0-9][a-zA-Z0-9_.-]{0,tail}`. -/
def matchesName (tail : ℕ) (s : List Char) : Bool :=
  match s with
  | [] => false
  | c :: cs => isAlnum c && cs.all isNameChar && cs.length ≤ tail

/-- `DOCKER_NAME_RE.fullmatch`: the whole string. -/
def validateDockerName : Validator := fun value =>
  if matchesName 127 value.toList then .ok () else .error (.invalidName value)

/-- `ALIAS_RE.match`: the pattern ends with `$`, which also matches before a
line feed at the end of the string. -/
def validateAlias : Validator := fun value =>
  if matchesName 62 value.toList || (value.toList.getLast? == some '\n' &&
      matchesName 62 value.toList.dropLast) then .ok ()
  else .error (.invalidAlias value)

def validateIp : Validator := fun value =>
  if isIpAddress value then .ok () else .error (.invalidIp value)

/-- The flags and the positional arguments that a command takes. -/
structure CmdSchema where
  flags : Dict String Validator
  positional : List Validator

def commandSchemas : Dict (List String) CmdSchema :=
  [(["network", "connect"],
    { flags := [("--alias", validateAlias), ("--ip", validateIp), ("--ip6", validateIp)]
      positional := [validateDockerName, validateDockerName] })]

def resolveCommandSchema (cmd : List String) :
    Except CommandError (List String × CmdSchema) :=
  match cmd with
  | [] => .error .emptyCommand
  | cmd =>
      let keys := (List.range cmd.length).reverse.map fun i => cmd.take (i + 1)
      match keys.findSome? fun key => (commandSchemas.get? key).map (key, ·) with
      | none => .error (.notAllowed cmd)
      | some schema => .ok schema

/-- The `while` loop over the arguments; it returns the positional ones. -/
def scanArguments (flags : Dict String Validator) :
    List String → List String → Except CommandError (List String)
  | [], positional => .ok positional
  | part :: rest, positional =>
      if startsWith part "-" then
        if positional ≠ [] then .error (.flagAfterPositional part)
        else
          match flags.get? part, rest with
          | none, _ => .error (.unknownFlag part)
          | some _, [] => .error (.flagRequiresValue part)
          | some validator, value :: rest =>
              match validator value with
              | .error e => .error e
              | .ok () => scanArguments flags rest positional
      else scanArguments flags rest (positional ++ [part])

def checkPositional : List String → List Validator → Except CommandError Unit
  | value :: values, validator :: validators =>
      match validator value with
      | .error e => .error e
      | .ok () => checkPositional values validators
  | _, _ => .ok ()

def commandValidator (cmd : List String) : Except CommandError (List String) :=
  match resolveCommandSchema cmd with
  | .error e => .error e
  | .ok (key, schema) =>
      match scanArguments schema.flags (cmd.drop key.length) [] with
      | .error e => .error e
      | .ok positional =>
          if positional.length ≠ schema.positional.length then
            .error (.positionalCount schema.positional.length positional.length)
          else
            match checkPositional positional schema.positional with
            | .error e => .error e
            | .ok () => .ok cmd

/-- Whether a `RunCommandRequestBodySchema` can be built for the command. -/
def isAllowedCommand (cmd : List String) : Bool :=
  (commandValidator cmd).isOk

example : isAllowedCommand ["network", "connect", "--ip", "10.0.0.7", "net", "web"] ∧
    ¬ isAllowedCommand ["network", "connect", "--link", "db", "net", "web"] := by decide

end Tugtainer
