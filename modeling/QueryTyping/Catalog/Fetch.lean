import QueryTyping.Catalog.WellKnown
import QueryTyping.Failure

namespace QueryTyping.Catalog

/-- What a run has asked so far, oldest first, and the types it knows, newest first. -/
structure Cache where
  calls : List Call
  types : List CatalogType
  deriving Repr

namespace Cache

def empty : Cache :=
  ⟨[], []⟩

def type? (c : Cache) (oid : Oid) : Option CatalogType :=
  c.types.find? fun t => t.oid = oid

def add (c : Cache) (t : CatalogType) : Cache :=
  { c with types := t :: c.types }

theorem oid_of_type? {c : Cache} {oid : Oid} {t : CatalogType} (h : c.type? oid = some t) :
    t.oid = oid := by
  simpa using List.find?_some h

def since (new old : Cache) : List CatalogType :=
  (new.types.take (new.types.length - old.types.length)).reverse

end Cache

abbrev Fetch := EStateM Failure Cache

def ask (call : Call) (answer : List Call → Except EngineFault α)
    (blame : EngineFault → Failure) : Fetch α := fun c =>
  let c' := { c with calls := c.calls ++ [call] }
  match answer c.calls with
  | .ok a => .ok a c'
  | .error f => .error (blame f) c'

def remember (t : CatalogType) : Fetch CatalogType := do
  modify fun c => c.add t
  return t

def unseen (seen : List Nat) : Nat → Nat
  | 0 => 0
  | n + 1 => unseen seen n + if n ∈ seen then 0 else 1

theorem unseen_cons_le (k : Nat) (seen : List Nat) (n : Nat) :
    unseen (k :: seen) n ≤ unseen seen n := by
  induction n with
  | zero => simp [unseen]
  | succ n ih => simp only [unseen, List.mem_cons]; grind

theorem unseen_cons_lt {k n : Nat} {seen : List Nat} (hk : k < n) (h : k ∉ seen) :
    unseen (k :: seen) n < unseen seen n := by
  induction n with
  | zero => omega
  | succ n ih =>
    have := unseen_cons_le k seen n
    simp only [unseen, List.mem_cons]
    by_cases hn : n = k
    · subst hn; simp [h]; omega
    · have := ih (by omega); simp [hn]; omega

abbrev Path := List (Oid × String)

def Path.room (p : Path) : Nat :=
  unseen (p.map fun x => x.1.val.toNat) UInt32.size

theorem Path.room_cons_lt {p : Path} {oid : Oid} (name : String) (h : oid ∉ p.map Prod.fst) :
    Path.room ((oid, name) :: p) < p.room := by
  refine unseen_cons_lt oid.val.toNat_lt ?_
  intro hm
  obtain ⟨x, hx, hv⟩ := List.mem_map.1 hm
  refine h (List.mem_map.2 ⟨x, hx, ?_⟩)
  obtain ⟨⟨a⟩, n⟩ := x
  obtain ⟨b⟩ := oid
  simpa using UInt32.toNat_inj.1 hv

mutual

def fetchIn (e : Engine) (p : Path) (oid : Oid) : Fetch CatalogType := do
  match (← get).type? oid with
  | some t => return t
  | none =>
    match wellKnown? oid with
    | some t => remember t
    | none =>
      let h ← ask (.header oid) (e.header · oid) (.ofLookup oid)
      if _seen : oid ∈ p.map Prod.fst then
        throw (.cycle (h.name :: p.map Prod.snd).reverse)
      else
        let head : Head := ⟨oid, h.name, h.schema⟩
        match h.shape with
        | .scalar => remember (.scalar head)
        | .pseudo => remember (.pseudo head)
        | .enum => do
          let labels ← ask (.labels oid) (e.labels · oid) (.ofLookup oid)
          remember (.enum head labels)
        | .composite => do
          let defs ← ask (.fields oid) (e.fields · oid) (.ofLookup oid)
          let fields ← fetchFields e ((oid, h.name) :: p) defs
          remember (.composite head fields)
        | .domain base => do
          let base ← fetchIn e ((oid, h.name) :: p) base
          remember (.domain head base)
        | .array elem => do
          let elem ← fetchIn e ((oid, h.name) :: p) elem
          remember (.array head elem)
termination_by (p.room, 0)
decreasing_by all_goals exact Prod.Lex.left _ _ (Path.room_cons_lt _ _seen)

def fetchFields (e : Engine) (p : Path) :
    List (String × Oid) → Fetch (List (String × CatalogType))
  | [] => return []
  | (name, oid) :: defs => do
    let t ← fetchIn e p oid
    return (name, t) :: (← fetchFields e p defs)
termination_by defs => (p.room, defs.length + 1)
decreasing_by
  · exact Prod.Lex.right _ (by simp)
  · exact Prod.Lex.right _ (by simp)

end

def fetch (e : Engine) (oid : Oid) : Fetch CatalogType :=
  fetchIn e [] oid

end QueryTyping.Catalog
