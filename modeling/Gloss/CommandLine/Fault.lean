import Gloss.CommandLine.Subcommand

namespace Gloss.CommandLine

inductive Tip
  | switch (name : String)
  | commands (names : List String)
  | verbatim (word : String)
  | switchOf (command : Subcommand) (name : String)
  | withoutDashes (command : String)

inductive Fault
  | unknownWord (word : String) (tip : Option Tip) (usage : Markup)
  | unknownCommand (word : String) (similar : List String) (usage : Markup)
  | valueMissing (what : String)
  | valueNotTaken (value : String) (switch : Switch) (usage : Markup)
  | repeated (switch : Switch) (usage : Markup)
  | operandsMissing (operands : String) (usage : Markup)

def wrong (s : String) : Markup := .styled [.yellow] s

def right (s : String) : Markup := .styled [.green] s

def quoted (m : Markup) : Markup := plain "'" ++ m ++ plain "'"

def listed : List String → Markup
  | [] => []
  | [name] => quoted (right name)
  | name :: names => quoted (right name) ++ plain ", " ++ listed names

namespace Tip

def message : Tip → Markup
  | switch name => plain "a similar argument exists: " ++ quoted (right ("--" ++ name))
  | commands [name] => plain "a similar subcommand exists: " ++ quoted (right name)
  | commands names => plain "some similar subcommands exist: " ++ listed names
  | verbatim word =>
    plain "to pass " ++ quoted (wrong word) ++ plain " as a value, use " ++ quoted (right ("-- " ++ word))
  | switchOf command name => quoted (right (command.name ++ " --" ++ name)) ++ plain " exists"
  | withoutDashes command =>
    plain "subcommand " ++ quoted (right command) ++ plain " exists; to use it, remove the "
      ++ quoted (wrong "--") ++ plain " before it"

def line (tip : Tip) : Markup := plain "\n\n  " ++ right "tip:" ++ plain " " ++ tip.message

end Tip

namespace Fault

def cause : Fault → Markup
  | unknownWord word _ _ => plain "unexpected argument " ++ quoted (wrong word) ++ plain " found"
  | unknownCommand word _ _ => plain "unrecognized subcommand " ++ quoted (wrong word)
  | valueMissing what =>
    plain "a value is required for " ++ quoted (wrong what) ++ plain " but none was supplied"
  | valueNotTaken value switch _ =>
    plain "unexpected value " ++ quoted (wrong value) ++ plain " for " ++ quoted (literal switch.text)
      ++ plain " found; no more were expected"
  | repeated switch _ =>
    plain "the argument " ++ quoted (wrong switch.text) ++ plain " cannot be used multiple times"
  | operandsMissing operands _ =>
    plain "the following required arguments were not provided:\n  " ++ right operands

def tip? : Fault → Option Tip
  | unknownWord _ tip _ => tip
  | unknownCommand _ similar _ => if similar.isEmpty then none else some (.commands similar)
  | _ => none

def usage? : Fault → Option Markup
  | unknownWord _ _ usage | unknownCommand _ _ usage | valueNotTaken _ _ usage | repeated _ usage
  | operandsMissing _ usage => some usage
  | valueMissing _ => none

def message (fault : Fault) : Markup :=
  .styled [.bold, .red] "error:" ++ plain " " ++ fault.cause ++ (fault.tip?.map Tip.line).getD []
    ++ (fault.usage?.map (plain "\n\n" ++ ·)).getD []
    ++ plain "\n\nFor more information, try " ++ quoted (literal "--help") ++ plain ".\n"

end Fault

end Gloss.CommandLine
