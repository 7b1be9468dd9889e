import QueryTyping.Program
import QueryTyping.Text.Romanization.Spellings

namespace QueryTyping.Program

def faultOf : IO.Error → FileTree.Fault
  | .inappropriateType _ 20 _ => .notFolder
  | .inappropriateType .. => .isFolder
  | .invalidArgument _ 36 _ => .tooLong
  | .alreadyExists .. => .occupied
  | _ => .notFound

def readManifest (path : String) : IO (Except FileTree.Fault String) := do
  try
    let bytes ← IO.FS.readBinFile path
    match String.fromUTF8? bytes with
    | some s => return .ok s
    | none => return .error .notText
  catch e => return .error (faultOf e)

def writeOutput (path text : String) : IO (Except FileTree.WriteFault Unit) := do
  let parent := FileTree.parent path
  try
    unless parent.isEmpty do IO.FS.createDirAll parent
  catch e => return .error (.noParent (faultOf e))
  try
    IO.FS.writeFile path text
    return .ok ()
  catch e => return .error (.unwritten path (faultOf e))

def report (o : Outcome) : IO UInt32 := do
  for r in o.log do
    IO.eprintln ("[" ++ r.level.label ++ " " ++ r.part ++ "] " ++ r.text)
  IO.print o.stdout
  IO.eprint o.stderr
  return o.exit.toUInt32

end QueryTyping.Program

open QueryTyping in
def main (words : List String) : IO UInt32 := do
  let env : Program.Environment :=
    ⟨← IO.getEnv "DATABASE_URL", ← IO.getEnv "RUST_LOG", .listed, fun _ => none⟩
  match Program.start env words with
  | .error o => Program.report o
  | .ok c =>
    match c.draft env.engine? (← Program.readManifest c.job.queries) with
    | .error o => Program.report o
    | .ok draft =>
      match c.job.output with
      | none => Program.report (c.print draft)
      | some path => Program.report (c.finish draft path (← Program.writeOutput path draft.text))
