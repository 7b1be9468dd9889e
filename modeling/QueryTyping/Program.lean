import QueryTyping.CommandLine.Help
import QueryTyping.Database
import QueryTyping.FileTree
import QueryTyping.Generation.Format
import QueryTyping.Job
import QueryTyping.LogFilter

namespace QueryTyping.Program

structure Environment where
  databaseUrl : Option String
  logFilter : Option String
  romanization : Text.Romanization
  engine? : String → Option Catalog.Engine

structure Outcome where
  exit : UInt8
  stdout : String
  stderr : String
  log : List LogRecord
  deriving DecidableEq, Repr

structure Course where
  job : Job
  filter : LogFilter
  warnings : String

def logFilter (written : Option String) (verbose quiet : Bool) : LogFilter × List LogFilter.Flaw :=
  LogFilter.parse (written.getD
    (if verbose then "debug" else if quiet then "error" else "info"))

def warning (f : LogFilter.Flaw) : String :=
  "warning: " ++ f.message ++ ", ignoring it\n"

def indent (s : String) : String :=
  String.ofList (s.toList.flatMap fun c => if c = '\n' then ['\n', ' ', ' ', ' ', ' '] else [c])

def failureText (message : String) (cause : Option String) : String :=
  "Error: " ++ message ++ "\n" ++
    match cause with
    | some c => "\nCaused by:\n    " ++ indent c ++ "\n"
    | none => ""

def failed (warnings : String) (log : List LogRecord) (message : String)
    (cause : Option String) : Outcome :=
  ⟨1, "", warnings ++ failureText message cause, log⟩

open CommandLine in
def refused : Refusal → Outcome
  | .help topic => ⟨0, topic.text, "", []⟩
  | .version => ⟨0, version, "", []⟩
  | .misuse m => ⟨2, "", "error: " ++ m.message ++ "\n", []⟩

def start (env : Environment) (words : List String) : Except Outcome Course :=
  match CommandLine.Command.parse env.databaseUrl words with
  | .error r => .error (refused r)
  | .ok c =>
    let (filter, flaws) := logFilter env.logFilter c.verbose c.quiet
    let warnings := String.join (flaws.map warning)
    match Job.ofCommand env.romanization c with
    | .error f => .error (failed warnings [] f.message none)
    | .ok job => .ok ⟨job, filter, warnings⟩

def loaded (path : String) (n : Nat) : LogRecord :=
  ⟨.info, "sqlinfer::ui::commands::infer", "loaded " ++ n.repr ++ " queries from " ++ path⟩

def ignored (p : String × String) : LogRecord :=
  ⟨.warn, "sqlx_postgres::options::parse",
    "ignoring unrecognized connect parameter key=" ++ p.1 ++ " value=" ++ p.2⟩

def wrote (path : String) : LogRecord :=
  ⟨.info, "sqlinfer::ui::commands::infer", "wrote typed queries to " ++ path⟩

structure Draft where
  text : String
  log : List LogRecord
  deriving DecidableEq, Repr

namespace Course

def wanted (c : Course) (log : List LogRecord) : List LogRecord :=
  log.filter c.filter.wants

def draft (c : Course) (engine? : String → Option Catalog.Engine)
    (content : Except FileTree.Fault String) : Except Outcome Draft :=
  match Manifest.load c.job.queries content with
  | .error f => .error (failed c.warnings [] f.message (some f.cause))
  | .ok qs =>
    let attempt := Database.connect engine? c.job.databaseUrl
    let log := loaded c.job.queries qs.length :: attempt.ignored.map ignored
    match attempt.outcome with
    | .error f =>
      .error (failed c.warnings (c.wanted log) "Failed to connect to the database"
        (some f.engineFault.message))
    | .ok e =>
      match generate e c.job.settings qs with
      | .error f σ =>
        .error (failed c.warnings (c.wanted (log ++ σ.events.map Event.record)) f.message none)
      | .ok g σ => .ok ⟨g.text, log ++ σ.events.map Event.record⟩

def print (c : Course) (d : Draft) : Outcome :=
  ⟨0, d.text ++ "\n", c.warnings, c.wanted d.log⟩

def finish (c : Course) (d : Draft) (path : String) : Except FileTree.WriteFault Unit → Outcome
  | .ok _ => ⟨0, "", c.warnings, c.wanted (d.log ++ [wrote path])⟩
  | .error f => failed c.warnings (c.wanted d.log) f.message f.cause

end Course

def run (env : Environment) (words : List String) (d : FileTree) : Outcome × FileTree :=
  match start env words with
  | .error o => (o, d)
  | .ok c =>
    match c.draft env.engine? (d.text c.job.queries) with
    | .error o => (o, d)
    | .ok draft =>
      match c.job.output with
      | none => (c.print draft, d)
      | some path =>
        let (written, d) := d.write path draft.text
        (c.finish draft path written, d)

end QueryTyping.Program
