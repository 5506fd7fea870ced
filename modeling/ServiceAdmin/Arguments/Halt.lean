import ServiceAdmin.Arguments.Usage
import ServiceAdmin.Text.Plain

/-!
# Command lines that name nothing to do

A command line may ask for help or for the version, or it may be refused.  A refusal tells the
fault, advice if there is some, and the usage of the level at which it was found.
-/

namespace ServiceAdmin.Arguments

/-- Advice on a word that is not accepted. -/
inductive Advice
  /-- The word can be given as a value. -/
  | passAsValue (word : String)
  /-- A named argument that the user may have meant. -/
  | similarArgument (name : String)
  /-- A named argument of a command that follows. -/
  | argumentOf (command name : String)
  /-- The word is a command if there are no dashes before it. -/
  | dropDashes (command : String)
  | similarCommands (names : List String)
  deriving DecidableEq, Repr

def quoted (s : String) : String := "'" ++ s ++ "'"

def Advice.text : Advice → String
  | passAsValue word => "to pass " ++ quoted word ++ " as a value, use " ++ quoted ("-- " ++ word)
  | similarArgument name => "a similar argument exists: " ++ quoted ("--" ++ name)
  | argumentOf command name => quoted (command ++ " --" ++ name) ++ " exists"
  | dropDashes command =>
    "subcommand " ++ quoted command ++ " exists; to use it, remove the '--' before it"
  | similarCommands [name] => "a similar subcommand exists: " ++ quoted name
  | similarCommands names =>
    "some similar subcommands exist: " ++ ", ".intercalate (names.map quoted)

/-- What is wrong with a command line. -/
inductive Fault
  | unknownArgument (word : String) (advice : Option Advice)
  | unknownCommand (word : String) (advice : Option Advice)
  | noCommand
  | missing (arguments : List Argument)
  | repeated (argument : Argument)
  | conflict (argument : Argument) (others : List Argument)
  /-- An argument has no value. -/
  | noValue (argument : Argument)
  | invalidValue (argument : Argument) (value reason : String)
  /-- A flag has a value. -/
  | surplusValue (argument : Argument) (value : String)
  deriving DecidableEq, Repr

def Fault.advice : Fault → Option Advice
  | unknownArgument _ advice => advice
  | unknownCommand _ advice => advice
  | _ => none

/-- The fault in words. -/
def Fault.text (level : Level) : Fault → String
  | unknownArgument word _ => "unexpected argument " ++ quoted word ++ " found"
  | unknownCommand word _ => "unrecognized subcommand " ++ quoted word
  | noCommand =>
    quoted level.title ++ " requires a subcommand but one was not provided\n  [subcommands: " ++
      ", ".intercalate (level.commands.map (·.name)) ++ "]"
  | missing arguments =>
    "the following required arguments were not provided:" ++
      String.join (arguments.map fun a => "\n  " ++ a.givenText)
  | repeated argument =>
    "the argument " ++ quoted argument.text ++ " cannot be used multiple times"
  | conflict argument [other] =>
    "the argument " ++ quoted argument.text ++ " cannot be used with " ++ quoted other.text
  | conflict argument others =>
    "the argument " ++ quoted argument.text ++ " cannot be used with:" ++
      String.join (others.map fun a => "\n  " ++ a.text)
  | noValue argument =>
    "a value is required for " ++ quoted argument.text ++ " but none was supplied"
  | invalidValue argument value reason =>
    "invalid value " ++ quoted value ++ " for " ++ quoted argument.text ++ ": " ++ reason
  | surplusValue argument value =>
    "unexpected value " ++ quoted value ++ " for " ++ quoted argument.text ++
      " found; no more were expected"

/-- Why there is nothing to do. -/
inductive Halt
  /-- The help was asked for. -/
  | help (level : Level)
  /-- The version was asked for. -/
  | version
  /-- Nothing was given at all. -/
  | nothingGiven (level : Level)
  /-- The fault was found at the level; its usage is shown for the given arguments, if at all. -/
  | refused (level : Level) (fault : Fault) (given : Option (List Argument))
  deriving DecidableEq, Repr

namespace Halt

/-- Whether the user asked for the text, so that it is no failure. -/
def isWanted : Halt → Bool
  | help _ => true
  | version => true
  | _ => false

/-- How to get help at a level. -/
def pointer (level : Level) : String :=
  if level.arguments.any (·.form = .help) then "\n\nFor more information, try '--help'." else ""

/-- The text with all that the user has written. -/
def fullText (grammar : Grammar) : Halt → String
  | help level => level.help
  | version => grammar.name ++ " " ++ grammar.version
  | nothingGiven level => level.help
  | refused level fault given =>
    fault.text level ++
      (match fault.advice with
        | some advice => "\n\n  tip: " ++ advice.text
        | none => "") ++
      (match given with
        | some given => "\n\n" ++ level.usageLine given
        | none => "") ++
      pointer level

/-- The text that the user is shown; nothing in it controls the terminal. -/
def text (grammar : Grammar) (halt : Halt) : String := Text.plain (halt.fullText grammar)

end Halt

end ServiceAdmin.Arguments
