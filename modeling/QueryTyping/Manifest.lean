import QueryTyping.Query.Format

namespace QueryTyping.Manifest

open Json (Decoded Document Slot refuse)

inductive Fault where
  | malformed (refusal : Json.Refusal)
  | duplicateName (name : String)
  deriving DecidableEq, Repr

def Fault.message : Fault → String
  | malformed r => r.complaint.message ++ " (at " ++ r.path.text ++ ")"
  | duplicateName n => "Duplicate query name '" ++ n ++ "'"

def toJson (qs : List SourceQuery) : Json :=
  .object [("queries", .array (qs.map SourceQuery.toJson))]

def decodeQueries : Document → Decoded (List SourceQuery) :=
  Json.decodeList SourceQuery.decode

def slot (found : Option (List SourceQuery)) (key : String) : Slot (Option (List SourceQuery)) :=
  if key = "queries" then
    if found.isSome then .taken else .free fun v => return some (← decodeQueries v)
  else .unknown

def decode : Document → Decoded (List SourceQuery)
  | .object es stop => do
    Json.required "queries" (← Json.decodeEntries (some ["queries"]) slot none es stop)
  | .array ds stop => do
    let (qs, ds) ← Json.decodeNext stop 0 decodeQueries
      (refuse (.wrongLength 0 "struct QueryManifest with 1 element")) ds
    Json.decodeClose stop ds
    return qs
  | d => d.mismatch "struct QueryManifest"

def duplicate? : List String → List String → Option String
  | _, [] => none
  | seen, n :: ns => if n ∈ seen then some n else duplicate? (n :: seen) ns

/-- The queries of a manifest; what follows it in the text is not read. -/
def parse (text : String) : Except Fault (List SourceQuery) :=
  match decode (Document.read text.toList).1 with
  | .error r => .error (.malformed r)
  | .ok qs =>
    match duplicate? [] (qs.map SourceQuery.name) with
    | some n => .error (.duplicateName n)
    | none => .ok qs

end QueryTyping.Manifest
