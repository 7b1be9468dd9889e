import QueryTyping.Typing

namespace QueryTyping

structure Generation where
  packagePath : String
  queries : List TypedQuery
  declarations : List TargetType
  imports : List String
  stats : Stats
  deriving Repr

def typeQueries (e : Catalog.Engine) (s : Settings) : List SourceQuery → Typing (List TypedQuery)
  | [] => return []
  | q :: qs => do
    let t ← typeQuery e s s.deadline q
    Typing.tell (.typed q.name t.inputs.length t.outputs.length)
    return t :: (← typeQueries e s qs)

def Session.stats (σ : Session) (queries : Nat) : Stats where
  queries := queries
  enums := σ.registry.declarations.countP TargetType.isEnum
  composites := σ.registry.declarations.countP TargetType.isComposite
  catalogTypes := σ.cache.types.length

def generation (e : Catalog.Engine) (s : Settings) (qs : List SourceQuery) : Typing Generation := do
  let typed ← typeQueries e s qs
  let σ ← get
  let stats := σ.stats typed.length
  Typing.tell (.finished stats)
  return ⟨s.packagePath, typed, σ.registry.declarations, σ.registry.imports s.packagePath, stats⟩

def generate (e : Catalog.Engine) (s : Settings) (qs : List SourceQuery) :
    EStateM.Result Failure Session Generation :=
  generation e s qs Session.empty

end QueryTyping
