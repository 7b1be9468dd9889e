import QueryTyping.CommandLine.Flag

namespace QueryTyping.CommandLine

def number? (s : String) : Option Nat :=
  let ds := match s.toList with
    | '+' :: ds => ds
    | ds => ds
  if ds.isEmpty || !ds.all Char.isDigit then none
  else
    let n := Nat.ofDigitChars 10 ds 0
    if n < UInt64.size then some n else none

def misuse (m : Misuse) : Except Refusal α :=
  .error (.misuse m)

structure Draft where
  given : List (Flag × String)
  pending : Option (Flag × Option String)
  deriving DecidableEq, Repr

namespace Draft

def empty : Draft :=
  ⟨[], none⟩

def has (d : Draft) (f : Flag) : Bool :=
  d.given.any fun p => p.1 = f

def value? (d : Draft) (f : Flag) : Option String :=
  d.given.lookup f

def values (d : Draft) (f : Flag) : List String :=
  (d.given.filter fun p => p.1 = f).map Prod.snd

def accept (d : Draft) (f : Flag) (v : String) : Except Refusal Draft :=
  if d.has f && !f.mayRepeat then misuse .repeated
  else if f.namesFile && v.isEmpty then misuse .missingValue
  else if f = .timeout && (number? v).isNone then misuse .invalidNumber
  else .ok { d with given := d.given ++ [(f, v)] }

def settle (d : Draft) : Except Refusal Draft :=
  match d.pending with
  | none => .ok d
  | some (_, none) => misuse .missingValue
  | some (f, some v) => { d with pending := none }.accept f v

def attach (d : Draft) (f : Flag) (v : String) : Except Refusal Draft := do
  (← d.settle).accept f v

def await (d : Draft) (f : Flag) : Except Refusal Draft := do
  return { ← d.settle with pending := some (f, none) }

def switchOn (d : Draft) (f : Flag) : Except Refusal Draft := do
  let d ← d.settle
  if f = .help then .error (.help .infer) else d.accept f ""

def long (d : Draft) (name : String) (value : Option String) : Except Refusal Draft :=
  match Flag.ofLong? name with
  | none => misuse .unknownArgument
  | some f =>
    match f.takesValue, value with
    | true, some v => d.attach f v
    | true, none => d.await f
    | false, some _ => misuse .unwantedValue
    | false, none => d.switchOn f

def short (d : Draft) : List Char → Except Refusal Draft
  | [] => .ok d
  | c :: cs =>
    match Flag.ofShort? c with
    | none => misuse .unknownArgument
    | some f =>
      if f.takesValue then
        match cs with
        | [] => d.await f
        | '=' :: v => d.attach f (String.ofList v)
        | v => d.attach f (String.ofList v)
      else do
        (← d.switchOn f).short cs

def word (d : Draft) (w : String) : Except Refusal Draft :=
  match d.pending with
  | some (f, none) => .ok { d with pending := some (f, some w) }
  | _ => misuse .unknownArgument

end Draft

inductive Shape where
  | separator
  | long (name : String) (value : Option String)
  | short (letters : List Char)
  | plain
  deriving DecidableEq, Repr

def shape (w : String) : Shape :=
  match w.toList with
  | ['-', '-'] => .separator
  | '-' :: '-' :: s =>
    let name := s.takeWhile (· ≠ '=')
    let value := match s.dropWhile (· ≠ '=') with
      | _ :: v => some (String.ofList v)
      | [] => none
    .long (String.ofList name) value
  | '-' :: c :: s => .short (c :: s)
  | _ => .plain

def Draft.read (d : Draft) : List String → Except Refusal Draft
  | [] => d.settle
  | w :: ws => do
    match shape w with
    | .separator => if ws.isEmpty then d.settle else misuse .unknownArgument
    | .long name value => (← d.long name value).read ws
    | .short letters => (← d.short letters).read ws
    | .plain => (← d.word w).read ws

structure Command where
  databaseUrl : String
  queries : String
  output : Option String
  packagePath : String
  typeOverrides : List String
  acronyms : List String
  /-- In seconds. -/
  timeout : Option Nat
  verbose : Bool
  quiet : Bool
  deriving DecidableEq, Repr

def Draft.command (d : Draft) (databaseUrl : Option String) : Except Refusal Command :=
  match (d.value? .databaseUrl).or databaseUrl, d.value? .queries, d.value? .packagePath with
  | some url, some queries, some path => .ok {
      databaseUrl := url
      queries := queries
      output := d.value? .output
      packagePath := path
      typeOverrides := d.values .typeOverride
      acronyms := d.values .acronym
      timeout := (d.value? .timeout).bind number?
      verbose := d.has .verbose
      quiet := d.has .quiet }
  | _, _, _ => misuse .missingArgument

def helpOn : List String → Except Refusal α
  | [] => .error (.help .program)
  | ["infer"] => .error (.help .infer)
  | ["help"] => .error (.help .help)
  | _ => misuse .unknownSubcommand

def Command.parse (databaseUrl : Option String) : List String → Except Refusal Command
  | [] => misuse .nothing
  | "infer" :: ws => do
    (← Draft.empty.read ws).command databaseUrl
  | "help" :: ws => helpOn ws
  | w :: ws =>
    match shape w with
    | .separator =>
      match ws with
      | [] => misuse .nothing
      | w :: _ =>
        if w = "infer" ∨ w = "help" then misuse .unknownArgument else misuse .unknownSubcommand
    | .long "help" none => .error (.help .program)
    | .long "version" none => .error .version
    | .long name _ =>
      if name = "help" ∨ name = "version" then misuse .unwantedValue else misuse .unknownArgument
    | .short ('h' :: _) => .error (.help .program)
    | .short ('V' :: _) => .error .version
    | .short _ => misuse .unknownArgument
    | .plain => misuse .unknownSubcommand

end QueryTyping.CommandLine
