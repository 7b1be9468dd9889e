import QueryTyping.Manifest
import QueryTyping.Text.Cut
import QueryTyping.Text.Sorted

namespace QueryTyping

abbrev Place := List String

structure FileTree where
  files : List (Place × ByteArray)
  folders : List Place

namespace FileTree

inductive Fault where
  | notFound
  | occupied
  | notFolder
  | isFolder
  | tooLong
  | zeroCharacter
  | notText
  deriving DecidableEq, Repr

def Fault.message : Fault → String
  | notFound => "No such file or directory (os error 2)"
  | occupied => "File exists (os error 17)"
  | notFolder => "Not a directory (os error 20)"
  | isFolder => "Is a directory (os error 21)"
  | tooLong => "File name too long (os error 36)"
  | zeroCharacter => "file name contained an unexpected NUL byte"
  | notText => "stream did not contain valid UTF-8"

/-- The working directory. Its name is one that no path can spell. -/
def home : Place :=
  ["tmp", ""]

def sink : Place :=
  ["dev", "null"]

def empty : FileTree :=
  ⟨[(sink, .empty)], [["dev"], ["tmp"], home]⟩

def isFile (d : FileTree) (place : Place) : Bool :=
  d.files.any fun f => f.1 = place

def isFolder (d : FileTree) (place : Place) : Bool :=
  place.isEmpty || d.folders.contains place

def names (d : FileTree) : List String :=
  let inside (p : Place) : Option String := if p.dropLast = home then p.getLast? else none
  Text.sortedSet ((d.files.map Prod.fst ++ d.folders).filterMap inside)

def pieces (path : String) : List String :=
  (Text.pieces '/' path.toList).map String.ofList

def stays (piece : String) : Bool :=
  piece = "" ∨ piece = "."

def steps (path : String) : List String :=
  (pieces path).filter fun s => !stays s

def endsInFolder (path : String) : Bool :=
  (pieces path).getLast?.all fun s => stays s ∨ s = ".."

def origin (path : String) : Place :=
  if path.toList.head? = some '/' then [] else home

def parent (path : String) : String :=
  let drop (ps : List String) : List String := (ps.reverse.dropWhile stays).reverse
  String.intercalate "/" (drop (drop (pieces path)).dropLast)

def pathLimit : Nat :=
  4095

def nameLimit : Nat :=
  255

def checkPath (path : String) : Except Fault Unit :=
  if '\x00' ∈ path.toList then .error .zeroCharacter
  else if pathLimit < path.utf8ByteSize then .error .tooLong
  else .ok ()

def child (here : Place) (name : String) : Except Fault Place :=
  if nameLimit < name.utf8ByteSize then .error .tooLong else .ok (here ++ [name])

def follow (d : FileTree) (here : Place) : List String → Except Fault Place
  | [] => .ok here
  | s :: ss =>
    if s = ".." then follow d here.dropLast ss
    else do
      let next ← child here s
      if d.isFolder next then follow d next ss
      else .error (if d.isFile next then .notFolder else .notFound)

def locate (d : FileTree) (path : String) : Except Fault Place := do
  checkPath path
  if path = "" then throw .notFound
  if endsInFolder path then
    let _ ← d.follow (origin path) (steps path)
    throw .isFolder
  let here ← d.follow (origin path) (steps path).dropLast
  let place ← child here ((steps path).getLast?.getD "")
  if d.isFolder place then throw .isFolder
  return place

def bytes (d : FileTree) (path : String) : Except Fault ByteArray := do
  match d.files.lookup (← d.locate path) with
  | some b => return b
  | none => throw .notFound

def text (d : FileTree) (path : String) : Except Fault String := do
  match String.fromUTF8? (← d.bytes path) with
  | some s => return s
  | none => throw .notText

def put (d : FileTree) (path : String) (content : ByteArray) : Except Fault FileTree := do
  let place ← d.locate path
  if place = sink then return d
  return { d with files := (place, content) :: d.files.filter fun f => f.1 ≠ place }

def makeFolders (d : FileTree) (here : Place) : List String → Except Fault Unit × FileTree
  | [] => (.ok (), d)
  | s :: ss =>
    if s = ".." then makeFolders d here.dropLast ss
    else match child here s with
      | .error f => (.error f, d)
      | .ok next =>
        if d.isFile next then (.error (if ss.isEmpty then .occupied else .notFolder), d)
        else if d.isFolder next then makeFolders d next ss
        else makeFolders { d with folders := next :: d.folders } next ss

def makeParent (d : FileTree) (path : String) : Except Fault Unit × FileTree :=
  match checkPath (parent path) with
  | .error f => (.error f, d)
  | .ok () => d.makeFolders (origin path) (steps path).dropLast

inductive WriteFault where
  | noParent (fault : Fault)
  | unwritten (path : String) (fault : Fault)
  deriving DecidableEq, Repr

def WriteFault.message : WriteFault → String
  | noParent f => f.message
  | unwritten path _ => "Failed to write " ++ path

def WriteFault.cause : WriteFault → Option String
  | noParent _ => none
  | unwritten _ f => some f.message

def write (d : FileTree) (path content : String) : Except WriteFault Unit × FileTree :=
  match d.makeParent path with
  | (.error f, d) => (.error (.noParent f), d)
  | (.ok _, d) =>
    match d.put path content.toUTF8 with
    | .ok d => (.ok (), d)
    | .error f => (.error (.unwritten path f), d)

end FileTree

inductive LoadFault where
  | unread (path : String) (fault : FileTree.Fault)
  | invalid (path : String) (fault : Manifest.Fault)
  deriving DecidableEq, Repr

namespace LoadFault

def message : LoadFault → String
  | unread path _ => "Failed to read query manifest " ++ path
  | invalid path _ => "Invalid query manifest " ++ path

def cause : LoadFault → String
  | unread _ f => f.message
  | invalid _ f => f.message

end LoadFault

def Manifest.load (path : String) (content : Except FileTree.Fault String) :
    Except LoadFault (List SourceQuery) := do
  let text ← content.mapError (.unread path)
  (Manifest.parse text).mapError (.invalid path)

end QueryTyping
