import Mathlib.Logic.Function.Iterate
import QueryTyping.Catalog.Fetch

namespace QueryTyping.Catalog

variable {e : Engine} {p : Path} {oid : Oid} {m : Type → Type} [Monad m]

def assemble (labels : m (List String)) (fields : m (List (String × Oid)))
    (next : Oid → m CatalogType) (head : Head) : TypeClass → m CatalogType
  | .scalar => return .scalar head
  | .pseudo => return .pseudo head
  | .enum => return .enum head (← labels)
  | .composite => do
    let defs ← fields
    return .composite head (← defs.mapM fun d => return (d.1, ← next d.2))
  | .domain base => return .domain head (← next base)
  | .array elem => return .array head (← next elem)

def askHeader (e : Engine) (oid : Oid) : Fetch TypeHeader :=
  ask (.header oid) (e.header · oid) (.ofLookup oid)

def askLabels (e : Engine) (oid : Oid) : Fetch (List String) :=
  ask (.labels oid) (e.labels · oid) (.ofLookup oid)

def askFields (e : Engine) (oid : Oid) : Fetch (List (String × Oid)) :=
  ask (.fields oid) (e.fields · oid) (.ofLookup oid)

def fetchLevel (e : Engine) (next : Path → Oid → Fetch CatalogType) (p : Path) (oid : Oid) :
    Fetch CatalogType := do
  match (← get).type? oid with
  | some t => return t
  | none =>
    match wellKnown? oid with
    | some t => remember t
    | none =>
      let h ← askHeader e oid
      if oid ∈ p.map Prod.fst then
        throw (.cycle (h.name :: p.map Prod.snd).reverse)
      else
        let t ← assemble (askLabels e oid) (askFields e oid) (next ((oid, h.name) :: p))
          ⟨oid, h.name, h.schema⟩ h.shape
        remember t

theorem fetchFields_eq_mapM (defs : List (String × Oid)) :
    fetchFields e p defs = defs.mapM fun d => return (d.1, ← fetchIn e p d.2) := by
  induction defs with
  | nil => rw [fetchFields, List.mapM_nil]
  | cons d defs ih =>
    rw [fetchFields, ih, List.mapM_cons]
    simp

theorem fetchIn_eq_fetchLevel : fetchIn e p oid = fetchLevel e (fetchIn e) p oid := by
  rw [fetchIn, fetchLevel]
  refine bind_congr fun c => ?_
  cases c.type? oid with
  | some t => rfl
  | none =>
    cases wellKnown? oid with
    | some t => rfl
    | none =>
      refine bind_congr fun h => ?_
      by_cases hseen : oid ∈ p.map Prod.fst
      · simp only [hseen, dite_true, if_true]
      · simp only [hseen, dite_false, if_false]
        cases h.shape <;> simp [assemble, askLabels, askFields, fetchFields_eq_mapM]

theorem fetchLevel_congr {next next' : Path → Oid → Fetch CatalogType}
    (h : oid ∉ p.map Prod.fst → ∀ name, next ((oid, name) :: p) = next' ((oid, name) :: p)) :
    fetchLevel e next p oid = fetchLevel e next' p oid := by
  by_cases hseen : oid ∈ p.map Prod.fst
  · simp only [fetchLevel, hseen, if_true]
  · simp only [fetchLevel, hseen, if_false, h hseen]

theorem iterate_fetchLevel (bottom : Path → Oid → Fetch CatalogType) {n : Nat}
    (h : p.room < n) : (fetchLevel e)^[n] bottom p = fetchIn e p := by
  induction n generalizing p with
  | zero => omega
  | succ n ih =>
    funext oid
    rw [Function.iterate_succ_apply', fetchIn_eq_fetchLevel]
    refine fetchLevel_congr fun hseen name => ih ?_
    have hlt := Path.room_cons_lt name hseen
    omega

theorem room_nil : Path.room [] = UInt32.size := by
  have hunseen (n : Nat) : unseen [] n = n := by
    induction n with
    | zero => rfl
    | succ n ih => simp [unseen, ih]
  exact hunseen UInt32.size

theorem fetch_eq_iterate (e : Engine) (bottom : Path → Oid → Fetch CatalogType) {n : Nat}
    (h : UInt32.size < n) (oid : Oid) : (fetchLevel e)^[n] bottom [] oid = fetch e oid := by
  rw [← room_nil] at h
  exact congrFun (iterate_fetchLevel bottom h) oid

end QueryTyping.Catalog
