import SchemaPipeline.Schema.Draft

/-!
# Invocations

What a command line asks for. The program either checks schemas or validates data against one; what
concerns the program as a whole can be said before the name of the command or after it.
-/

namespace SchemaPipeline.Command

inductive CommandName where
  | validate
  | check
deriving DecidableEq, Repr

namespace CommandName

def name : CommandName → String
  | .validate => "validate"
  | .check => "check"

def ofName? (s : String) : Option CommandName := [validate, check].find? (·.name == s)

end CommandName

/-- A validation: the files it is about, and what it changes about the configuration. -/
structure ValidateOptions where
  schema : String
  data : List String
  noDefaults : Bool
  noFill : Bool
  noFormats : Bool
  draft : Option DraftChoice
  compact : Bool
deriving DecidableEq, Repr

inductive Task where
  | validate (options : ValidateOptions)
  | check (schemas : List String)
deriving DecidableEq, Repr

structure Invocation where
  verbosity : Nat
  logJson : Bool
  config : Option String
  task : Task
deriving DecidableEq, Repr

/-- What a command line asks for. -/
inductive Request where
  | run (invocation : Invocation)
  | help (about : Option CommandName)
  | version
deriving DecidableEq, Repr

/-- Why a command line asks for nothing. -/
inductive UsageError where
  | unknownOption (text : String)
  | unexpectedArgument (text : String)
  | unexpectedValue (option : String)
  | missingValue (option : String)
  | invalidValue (option value : String)
  | repeated (option : String)
  | unknownCommand (text : String)
  | missingCommand
  | missingArgument (name : String)
deriving DecidableEq, Repr

namespace UsageError

def message : UsageError → String
  | .unknownOption t => "unexpected argument '" ++ t ++ "' found"
  | .unexpectedArgument t => "unexpected argument '" ++ t ++ "' found"
  | .unexpectedValue o => "the option '" ++ o ++ "' takes no value"
  | .missingValue o => "a value is required for '" ++ o ++ "' but none was supplied"
  | .invalidValue o v => "invalid value '" ++ v ++ "' for '" ++ o ++ "'"
  | .repeated o => "the argument '" ++ o ++ "' cannot be used multiple times"
  | .unknownCommand t => "unrecognized subcommand '" ++ t ++ "'"
  | .missingCommand => "a subcommand is required but one was not provided"
  | .missingArgument n => "the required argument '" ++ n ++ "' was not provided"

end UsageError

end SchemaPipeline.Command
