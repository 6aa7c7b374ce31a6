import Intake.Parameter

/-!
# Commands

What the program can be told to do: check a batch of requests, describe an endpoint, serve one, tell
its version, or complete command lines in a shell.
-/

namespace Intake

inductive ColorMode where
  | auto
  | always
  | never
  deriving DecidableEq

instance : Worded ColorMode where
  all := [.auto, .always, .never]
  word
    | .auto => "auto"
    | .always => "always"
    | .never => "never"

/-- Whether to color what goes to a terminal or elsewhere. -/
def ColorMode.colors (m : ColorMode) (terminal : Bool) : Bool :=
  match m with
  | .auto => terminal
  | .always => true
  | .never => false

inductive Shell where
  | bash
  | elvish
  | fish
  | powershell
  | zsh
  deriving DecidableEq

instance : Worded Shell where
  all := [.bash, .elvish, .fish, .powershell, .zsh]
  word
    | .bash => "bash"
    | .elvish => "elvish"
    | .fish => "fish"
    | .powershell => "powershell"
    | .zsh => "zsh"

inductive Verb where
  | check
  | describe
  | serve
  | version
  | completion
  | help
  deriving DecidableEq

instance : Worded Verb where
  all := [.check, .describe, .serve, .version, .completion, .help]
  word
    | .check => "check"
    | .describe => "describe"
    | .serve => "serve"
    | .version => "version"
    | .completion => "completion"
    | .help => "help"

/-- A command. Endpoints and inputs are given by the paths of files. -/
inductive Command where
  /-- Checks requests, those of the standard input unless another is given. -/
  | check (endpoint : String) (input : Option String)
  | describe (endpoint : String)
  | serve (endpoint : String) (bind : String) (isPublic : Bool) (maxBodyBytes capacity : Nat)
  | version
  | completion (shell : Shell)

namespace Command

def endpointPath? : Command → Option String
  | .check path _ => some path
  | .describe path => some path
  | .serve path _ _ _ _ => some path
  | .version => none
  | .completion _ => none

/-- Where a command that reads a batch reads it from: a file or else the standard input. -/
def input? : Command → Option (Option String)
  | .check _ input => some input
  | .describe _ => none
  | .serve _ _ _ _ _ => none
  | .version => none
  | .completion _ => none

end Command

structure Invocation where
  color : ColorMode := .auto
  command : Command

end Intake
