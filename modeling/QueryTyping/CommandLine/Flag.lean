namespace QueryTyping.CommandLine

inductive Flag where
  | databaseUrl
  | queries
  | output
  | packagePath
  | typeOverride
  | acronym
  | timeout
  | verbose
  | quiet
  | help
  deriving DecidableEq, Repr

namespace Flag

def all : List Flag :=
  [databaseUrl, queries, output, packagePath, typeOverride, acronym, timeout, verbose, quiet, help]

def long : Flag → String
  | databaseUrl => "database-url"
  | queries => "queries"
  | output => "output"
  | packagePath => "package-path"
  | typeOverride => "type-override"
  | acronym => "acronym"
  | timeout => "timeout"
  | verbose => "verbose"
  | quiet => "quiet"
  | help => "help"

def short? : Flag → Option Char
  | output => some 'o'
  | verbose => some 'v'
  | quiet => some 'q'
  | help => some 'h'
  | _ => none

def takesValue : Flag → Bool
  | verbose | quiet | help => false
  | _ => true

def mayRepeat : Flag → Bool
  | typeOverride | acronym => true
  | _ => false

def namesFile : Flag → Bool
  | queries | output => true
  | _ => false

def ofLong? (s : String) : Option Flag :=
  all.find? fun f => f.long == s

def ofShort? (c : Char) : Option Flag :=
  all.find? fun f => f.short? == some c

end Flag

inductive Misuse where
  | nothing
  | unknownSubcommand
  | unknownArgument
  | missingArgument
  | missingValue
  | invalidNumber
  | repeated
  | unwantedValue
  deriving DecidableEq, Repr

namespace Misuse

def message : Misuse → String
  | nothing => "a subcommand is required"
  | unknownSubcommand => "unrecognized subcommand"
  | unknownArgument => "unexpected argument"
  | missingArgument => "a required argument is missing"
  | missingValue => "a flag lacks its value"
  | invalidNumber => "a number is required"
  | repeated => "a flag is given twice"
  | unwantedValue => "a flag takes no value"

end Misuse

inductive Topic where
  | program
  | infer
  | help
  deriving DecidableEq, Repr

inductive Refusal where
  | help (topic : Topic)
  | version
  | misuse (m : Misuse)
  deriving DecidableEq, Repr

end QueryTyping.CommandLine
