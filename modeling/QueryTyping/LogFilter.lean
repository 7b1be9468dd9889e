import QueryTyping.Event
import QueryTyping.Pattern.Reader
import QueryTyping.Text.Blank
import QueryTyping.Text.Cut

namespace QueryTyping

def Level.lastRank? (s : String) : Option Nat :=
  match String.ofList (s.toList.map Char.toLower) with
  | "off" => some 0
  | "error" => some error.rank
  | "warn" => some warn.rank
  | "info" => some info.rank
  | "debug" | "trace" => some debug.rank
  | _ => none

structure LogRecord where
  level : Level
  part : String
  text : String
  deriving DecidableEq, Repr

def Event.record (e : Event) : LogRecord :=
  ⟨e.level, e.part, e.message⟩

structure LogDirective where
  part : Option String
  rank : Nat
  deriving DecidableEq, Repr

namespace LogDirective

def parse (s : String) : Except String LogDirective :=
  match (Text.pieces '=' s.toList).map String.ofList with
  | [a] =>
    match Level.lastRank? a with
    | some r => .ok ⟨none, r⟩
    | none => .ok ⟨some a, Level.debug.rank⟩
  | [a, b] =>
    let b := Text.trimmed b
    if b = "" then .ok ⟨some a, Level.debug.rank⟩
    else match Level.lastRank? b with
      | some r => .ok ⟨some a, r⟩
      | none => .error b
  | _ => .error s

def covers (d : LogDirective) (part : String) : Bool :=
  d.part.all fun b => b.toList.isPrefixOf part.toList

def length (d : LogDirective) : Nat :=
  d.part.elim 0 String.length

/-- Of two directives that cover a part the one with the longer beginning, or else the later. -/
def sharper (found : Option LogDirective) (d : LogDirective) : Option LogDirective :=
  match found with
  | some e => if d.length < e.length then some e else some d
  | none => some d

def settle (l : List LogDirective) (d : LogDirective) : List LogDirective :=
  if l.any fun e => e.part = d.part then l.map fun e => if e.part = d.part then d else e
  else l ++ [d]

end LogDirective

structure LogFilter where
  directives : List LogDirective
  pattern : Pattern
  deriving DecidableEq, Repr

namespace LogFilter

inductive Flaw where
  | directive (text : String)
  | slashes (text : String)
  | pattern (text : String) (fault : Pattern.Fault)
  deriving DecidableEq, Repr

def Flaw.message : Flaw → String
  | directive s => "invalid logging spec '" ++ s ++ "'"
  | slashes s => "invalid logging spec '" ++ s ++ "' (too many '/'s)"
  | pattern s f => "invalid regex filter - " ++ f.message s.toList

def parseDirectives (s : String) : List (Except String LogDirective) :=
  let trimmed := (Text.pieces ',' s.toList).map fun p => String.ofList (Text.trim p)
  (trimmed.filter fun p => p ≠ "").map LogDirective.parse

def ofDirectives (l : List (Except String LogDirective)) : LogFilter × List Flaw :=
  let flaw : Except String LogDirective → Option Flaw
    | .ok _ => none
    | .error s => some (.directive s)
  (⟨(l.filterMap Except.toOption).foldl LogDirective.settle [], .empty⟩, l.filterMap flaw)

def parse (s : String) : LogFilter × List Flaw :=
  match (Text.pieces '/' s.toList).map String.ofList with
  | [l] => ofDirectives (parseDirectives l)
  | [l, written] =>
    let (f, flaws) := ofDirectives (parseDirectives l)
    match Pattern.read written.toList with
    | .ok p => ({ f with pattern := p }, flaws)
    | .error fault => (f, flaws ++ [.pattern written fault])
  | _ => (⟨[], .empty⟩, [.slashes s])

def lastRank (f : LogFilter) (part : String) : Nat :=
  if f.directives.isEmpty then Level.error.rank
  else
    let covering := f.directives.filter fun d => d.covers part
    (covering.foldl LogDirective.sharper none).elim 0 LogDirective.rank

def wants (f : LogFilter) (r : LogRecord) : Bool :=
  r.level.rank ≤ f.lastRank r.part && f.pattern.occursIn r.text.toList

end LogFilter

end QueryTyping
