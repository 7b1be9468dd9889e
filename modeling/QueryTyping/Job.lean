import QueryTyping.CommandLine.Command
import QueryTyping.Settings

namespace QueryTyping

inductive CommandFault where
  | noPackagePath
  | noTimeout
  | setting (f : Failure)
  deriving DecidableEq, Repr

def CommandFault.message : CommandFault → String
  | noPackagePath => "Package path (--package-path) must not be empty"
  | noTimeout => "Timeout (--timeout) must be at least one second"
  | setting f => f.message

structure Job where
  databaseUrl : String
  queries : String
  output : Option String
  settings : Settings

open CommandLine in
def Job.ofCommand (r : Text.Romanization) (c : Command) : Except CommandFault Job := do
  if (Text.trim c.packagePath.toList).isEmpty then throw .noPackagePath
  if c.timeout = some 0 then throw .noTimeout
  let overrides ← (Settings.parseOverrides c.typeOverrides).mapError .setting
  let acronyms ← (Settings.parseAcronyms c.acronyms).mapError .setting
  return ⟨c.databaseUrl, c.queries, c.output,
    ⟨c.packagePath, overrides, acronyms, c.timeout.map (1000 * ·), r⟩⟩

end QueryTyping
