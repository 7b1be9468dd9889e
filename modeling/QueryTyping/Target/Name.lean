import QueryTyping.Text.Blank
import QueryTyping.Text.Cut

namespace QueryTyping.Target

def isMajorVersion : List Char → Bool
  | 'v' :: d :: s => (d :: s).all Char.isDigit
  | _ => false

def lastSegment (path : List Char) : List Char :=
  match Text.cutLast '/' path with
  | some (_, s) => s
  | none => path

/-- The last segment of the path, or the one before it when the last is a major version. -/
def aliasOf (path : List Char) : List Char :=
  match Text.cutLast '/' path with
  | some (parents, s) => if isMajorVersion s then lastSegment parents else s
  | none => path

def packageAlias (path : String) : String :=
  String.ofList (aliasOf path.toList)

structure Name where
  path : String
  pkg : String
  name : String
  deriving DecidableEq, Repr

def Name.bare (name : String) : Name :=
  ⟨"", "", name⟩

def Name.inPackage (path name : String) : Name :=
  ⟨path, packageAlias path, name⟩

inductive NameFault where
  | empty
  | noPath
  | noName
  deriving DecidableEq, Repr

def NameFault.message : NameFault → String
  | empty => "type is empty"
  | noPath => "package path before the type name is empty"
  | noName => "expected a type name after the last '.' of the package path"

def Name.parse (s : String) : Except NameFault Name :=
  let t := Text.trim s.toList
  if t.isEmpty then .error .empty
  else match Text.cutLast '.' t with
    | none => .ok (.bare (String.ofList t))
    | some (path, name) =>
      if path.isEmpty then .error .noPath
      else if name.isEmpty || name.contains '/' then .error .noName
      else .ok (.inPackage (String.ofList path) (String.ofList name))

inductive Names : List Char → Name → Prop where
  | bare {t : List Char} : t ≠ [] → '.' ∉ t → Names t (.bare (String.ofList t))
  | inPackage {path name : List Char} : path ≠ [] → name ≠ [] → '.' ∉ name → '/' ∉ name →
    Names (path ++ '.' :: name) (.inPackage (String.ofList path) (String.ofList name))

theorem Name.parse_of_dot {s : String} {path name : List Char}
    (h : Text.trim s.toList = path ++ '.' :: name) (hdot : '.' ∉ name) :
    parse s = if path = [] then .error .noPath
      else if name = [] ∨ '/' ∈ name then .error .noName
      else .ok (.inPackage (String.ofList path) (String.ofList name)) := by
  simp [parse, h, Text.cutLast_append hdot]

theorem Name.parse_of_no_dot {s : String} (hdot : '.' ∉ Text.trim s.toList) :
    parse s = if Text.trim s.toList = [] then .error .empty
      else .ok (.bare (String.ofList (Text.trim s.toList))) := by
  have hcut : Text.cutLast '.' (Text.trim s.toList) = none := Text.cutLast_eq_none_iff.2 hdot
  simp [parse, hcut]

theorem Name.parse_eq_ok_iff {s : String} {n : Name} :
    parse s = .ok n ↔ Names (Text.trim s.toList) n := by
  cases hcut : Text.cutLast '.' (Text.trim s.toList) with
  | none =>
    have hdot : '.' ∉ Text.trim s.toList := Text.cutLast_eq_none_iff.1 hcut
    rw [parse_of_no_dot hdot]
    constructor
    · intro h
      split at h
      · exact nomatch h
      · rename_i hne
        obtain rfl := Except.ok.inj h
        exact .bare hne hdot
    · intro h
      generalize Text.trim s.toList = t at h hdot
      cases h with
      | bare hne => rw [if_neg hne]
      | inPackage => simp at hdot
  | some p =>
    obtain ⟨path, name⟩ := p
    obtain ⟨ht, hdot⟩ := Text.cutLast_eq_some_iff.1 hcut
    rw [parse_of_dot ht hdot, ht]
    constructor
    · intro h
      split at h
      · exact nomatch h
      rename_i hpath
      split at h
      · exact nomatch h
      · rename_i hname
        obtain rfl := Except.ok.inj h
        exact .inPackage hpath (fun h => hname (.inl h)) hdot fun h => hname (.inr h)
    · intro h
      generalize hs : path ++ '.' :: name = t at h
      cases h with
      | bare _ hno => simp [← hs] at hno
      | @inPackage path' name' hpath hname hdot' hslash =>
        obtain ⟨rfl, rfl⟩ := Text.cutLast_inj hdot hdot' hs
        rw [if_neg hpath, if_neg]
        exact fun h => h.elim hname hslash

end QueryTyping.Target
