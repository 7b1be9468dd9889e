namespace QueryTyping

variable {ε σ α β : Type}

def Ends (x : EStateM ε σ α) (s : σ) (ok : α → σ → Prop) (fail : ε → σ → Prop) : Prop :=
  match x s with
  | .ok a s' => ok a s'
  | .error f s' => fail f s'

def outcome (x : EStateM ε σ α) (s : σ) : Except ε α :=
  match x s with
  | .ok a _ => .ok a
  | .error f _ => .error f

def stateAfter (x : EStateM ε σ α) (s : σ) : σ :=
  match x s with
  | .ok _ s' | .error _ s' => s'

theorem exists_of_map_eq_ok {x : Except ε α} {f : α → β} {b : β} (h : f <$> x = .ok b) :
    ∃ a, x = .ok a ∧ f a = b := by
  cases x with
  | ok a => exact ⟨a, rfl, Except.ok.inj h⟩
  | error e => exact nomatch h

theorem eq_ok_of_toOption {x : Except ε α} {a : α} (h : x.toOption = some a) : x = .ok a := by
  cases x with
  | ok b => rw [Option.some.inj h]
  | error e => exact nomatch h

theorem mapM_cons_eq_ok {f : α → Except ε β} {a : α} {l : List α} {bs : List β}
    (h : (a :: l).mapM f = .ok bs) :
    ∃ b bs', f a = .ok b ∧ l.mapM f = .ok bs' ∧ bs = b :: bs' := by
  rw [List.mapM_cons] at h
  cases hb : f a with
  | error e =>
    rw [hb] at h
    exact nomatch h
  | ok b =>
    cases hbs : l.mapM f with
    | error e =>
      rw [hb, hbs] at h
      exact nomatch h
    | ok bs' =>
      rw [hb, hbs] at h
      exact ⟨b, bs', rfl, rfl, (Except.ok.inj h).symm⟩

theorem exists_of_mapM_eq_ok {f : α → Except ε β} {l : List α} {bs : List β}
    (h : l.mapM f = .ok bs) : ∀ a ∈ l, ∃ b, f a = .ok b := by
  induction l generalizing bs with
  | nil => exact fun a ha => absurd ha List.not_mem_nil
  | cons a l ih =>
    obtain ⟨b, bs', hb, hbs, -⟩ := mapM_cons_eq_ok h
    exact List.forall_mem_cons.2 ⟨⟨b, hb⟩, ih hbs⟩

theorem mapError_eq_error {ε' : Type} {x : Except ε α} {g : ε → ε'} {e : ε'}
    (h : x.mapError g = .error e) : ∃ a, x = .error a ∧ e = g a := by
  cases x with
  | ok a => exact nomatch h
  | error a => exact ⟨a, rfl, (Except.error.inj h).symm⟩

theorem mapM_eq_error_iff {f : α → Except ε β} {l : List α} {e : ε} : l.mapM f = .error e ↔
    ∃ before a after, l = before ++ a :: after ∧ (∀ b ∈ before, ∃ c, f b = .ok c) ∧
      f a = .error e := by
  constructor
  · intro h
    induction l with
    | nil => exact nomatch h
    | cons x l ih =>
      rw [List.mapM_cons] at h
      cases hx : f x with
      | error e' =>
        rw [hx] at h
        cases h
        exact ⟨[], x, l, rfl, by simp, hx⟩
      | ok y =>
        cases hl : l.mapM f with
        | error e' =>
          rw [hx, hl] at h
          cases h
          obtain ⟨before, a, after, rfl, hbefore, ha⟩ := ih hl
          exact ⟨x :: before, a, after, rfl, List.forall_mem_cons.2 ⟨⟨y, hx⟩, hbefore⟩, ha⟩
        | ok ys =>
          rw [hx, hl] at h
          exact nomatch h
  · rintro ⟨before, a, after, rfl, hbefore, ha⟩
    induction before with
    | nil =>
      rw [List.nil_append, List.mapM_cons, ha]
      rfl
    | cons b before ih =>
      obtain ⟨⟨c, hc⟩, hbefore⟩ := List.forall_mem_cons.1 hbefore
      rw [List.cons_append, List.mapM_cons, hc, ih hbefore]
      rfl

theorem mapM_except_error {f : α → Except ε β} {l : List α} {e : ε} (h : l.mapM f = .error e) :
    ∃ a ∈ l, f a = .error e := by
  obtain ⟨before, a, after, rfl, -, ha⟩ := mapM_eq_error_iff.1 h
  exact ⟨a, by simp, ha⟩

theorem eq_map_of_mapM_eq_ok {f : α → Except ε β} {g : α → β} {l : List α} {bs : List β}
    (hf : ∀ a b, f a = .ok b → b = g a) (h : l.mapM f = .ok bs) : bs = l.map g := by
  induction l generalizing bs with
  | nil => exact (Except.ok.inj h).symm
  | cons a l ih =>
    obtain ⟨b, bs', hb, hbs, rfl⟩ := mapM_cons_eq_ok h
    rw [List.map_cons, hf a b hb, ih hbs]

theorem map_except_error {x : Except ε α} {f : α → β} {e : ε} (h : f <$> x = .error e) :
    x = .error e := by
  cases x with
  | error e' => exact congrArg Except.error (Except.error.inj h)
  | ok a => exact nomatch h

section Sequence

variable {x : EStateM ε σ α} {f : α → EStateM ε σ β} {s s' : σ} {a : α} {e : ε}

theorem eq_ok_of_outcome (h : outcome x s = .ok a) : x s = .ok a (stateAfter x s) := by
  unfold outcome at h
  unfold stateAfter
  cases hx : x s with
  | ok b s' =>
    rw [hx] at h
    rw [Except.ok.inj h]
  | error f s' => simp [hx] at h

theorem eq_error_of_outcome (h : outcome x s = .error e) : x s = .error e (stateAfter x s) := by
  unfold outcome at h
  unfold stateAfter
  cases hx : x s with
  | ok b s' => simp [hx] at h
  | error f s' =>
    rw [hx] at h
    rw [Except.error.inj h]

theorem bind_of_ok (h : x s = .ok a s') : (x >>= f) s = f a s' := by
  simp [Bind.bind, EStateM.bind, h]

theorem bind_of_error (h : x s = .error e s') : (x >>= f) s = .error e s' := by
  simp [Bind.bind, EStateM.bind, h]

theorem stateAfter_of_ok (h : x s = .ok a s') : stateAfter x s = s' := by
  rw [stateAfter, h]

theorem stateAfter_of_error (h : x s = .error e s') : stateAfter x s = s' := by
  rw [stateAfter, h]

theorem stateAfter_bind_of_ok (h : x s = .ok a s') :
    stateAfter (x >>= f) s = stateAfter (f a) s' := by
  rw [stateAfter, stateAfter, bind_of_ok h]

theorem stateAfter_bind_of_error (h : x s = .error e s') : stateAfter (x >>= f) s = s' :=
  stateAfter_of_error (bind_of_error h)

theorem stateAfter_map {g : α → β} : stateAfter (g <$> x) s = stateAfter x s := by
  simp only [stateAfter, Functor.map, EStateM.map]
  cases x s <;> rfl

theorem get_bind {f : σ → EStateM ε σ β} : (get >>= f) s = f s s :=
  rfl

end Sequence

namespace Ends

variable {x : EStateM ε σ α} {f : α → EStateM ε σ β} {s s' : σ} {a : α} {e : ε}
variable {ok ok' : α → σ → Prop} {fail fail' : ε → σ → Prop} {okβ : β → σ → Prop}

theorem of_ok (h : Ends x s ok fail) (hx : x s = .ok a s') : ok a s' := by
  simpa [Ends, hx] using h

theorem of_error (h : Ends x s ok fail) (hx : x s = .error e s') : fail e s' := by
  simpa [Ends, hx] using h

theorem pure (h : ok a s) : Ends (pure a) s ok fail :=
  h

theorem throw (h : fail e s) : Ends (throw e) s ok fail :=
  h

theorem modify {g : σ → σ} {ok : PUnit → σ → Prop} (h : ok ⟨⟩ (g s)) :
    Ends (modify g) s ok fail :=
  h

theorem mono (h : Ends x s ok fail) (hok : ∀ a s', ok a s' → ok' a s')
    (hfail : ∀ e s', fail e s' → fail' e s') : Ends x s ok' fail' := by
  unfold Ends at *
  cases hx : x s with
  | ok a s' => rw [hx] at h; exact hok a s' h
  | error e s' => rw [hx] at h; exact hfail e s' h

theorem of_eq {y : EStateM ε σ α} (h : Ends y s' ok fail) (hxy : x s = y s') :
    Ends x s ok fail := by
  unfold Ends at *
  rw [hxy]
  exact h

theorem and (h : Ends x s ok fail) (h' : Ends x s ok' fail') :
    Ends x s (fun a s' => ok a s' ∧ ok' a s') (fun e s' => fail e s' ∧ fail' e s') := by
  unfold Ends at *
  cases hx : x s with
  | ok a s' => rw [hx] at h h'; exact ⟨h, h'⟩
  | error e s' => rw [hx] at h h'; exact ⟨h, h'⟩

theorem bind (h : Ends x s ok fail) (hf : ∀ a s', ok a s' → Ends (f a) s' okβ fail')
    (hfail : ∀ e s', fail e s' → fail' e s') : Ends (x >>= f) s okβ fail' := by
  unfold Ends at h
  cases hx : x s with
  | ok a s' =>
    rw [hx] at h
    simpa [Ends, bind_of_ok hx] using hf a s' h
  | error e s' =>
    rw [hx] at h
    simpa [Ends, bind_of_error hx] using hfail e s' h

theorem bind_get {f : σ → EStateM ε σ β} (h : Ends (f s) s okβ fail) :
    Ends (get >>= f) s okβ fail :=
  h

theorem of_map {f : α → β} (h : Ends (f <$> x) s okβ fail) :
    Ends x s (fun a s' => okβ (f a) s') fail := by
  unfold Ends at *
  cases hx : x s with
  | ok a s' => simpa [Functor.map, EStateM.map, hx] using h
  | error e s' => simpa [Functor.map, EStateM.map, hx] using h

theorem ok_of_not_fail (h : Ends x s ok fun _ _ => False) : ∃ a s', x s = .ok a s' ∧ ok a s' := by
  unfold Ends at h
  cases hx : x s with
  | ok a s' => rw [hx] at h; exact ⟨a, s', rfl, h⟩
  | error e s' => rw [hx] at h; exact h.elim

theorem outcome_eq {r : Except ε α} (h : Ends x s (fun a _ => r = .ok a) fun e _ => r = .error e) :
    outcome x s = r := by
  unfold Ends at h
  unfold outcome
  cases hx : x s with
  | ok a s' => rw [hx] at h; exact h.symm
  | error e s' => rw [hx] at h; exact h.symm

theorem after {P : σ → Prop} (h : Ends x s (fun _ s' => P s') fun _ s' => P s') :
    P (stateAfter x s) := by
  unfold Ends at h
  unfold stateAfter
  cases hx : x s with
  | ok a s' => rw [hx] at h; exact h
  | error e s' => rw [hx] at h; exact h

end Ends

section Failing

variable {x : EStateM ε σ α} {s s' : σ} {e : ε}

theorem bind_eq_error {f : α → EStateM ε σ β} :
    (x >>= f) s = .error e s' ↔
      x s = .error e s' ∨ ∃ a s₁, x s = .ok a s₁ ∧ f a s₁ = .error e s' := by
  cases hx : x s with
  | ok a s₁ =>
    rw [bind_of_ok hx]
    constructor
    · exact fun h => .inr ⟨a, s₁, rfl, h⟩
    · rintro (h | ⟨b, s₂, h, hf⟩)
      · exact nomatch h
      · cases h
        exact hf
  | error e s₁ => simp [bind_of_error hx]

theorem map_eq_error {f : α → β} (h : x s = .error e s') : (f <$> x) s = .error e s' := by
  simp [Functor.map, EStateM.map, h]

theorem mapM_eq_error {f : α → EStateM ε σ β} {l : List α} (h : l.mapM f s = .error e s') :
    ∃ before a bs s₁, before ++ [a] <+: l ∧ before.mapM f s = .ok bs s₁ ∧
      f a s₁ = .error e s' := by
  induction l generalizing s with
  | nil => exact nomatch h
  | cons a l ih =>
    rw [List.mapM_cons] at h
    rcases bind_eq_error.1 h with h | ⟨b, s₁, hb, h⟩
    · exact ⟨[], a, [], s, ⟨l, rfl⟩, rfl, h⟩
    · rcases bind_eq_error.1 h with h | ⟨bs, s₂, -, h⟩
      · obtain ⟨before, a', bs, s₂, hl, hbefore, ha'⟩ := ih h
        refine ⟨a :: before, a', b :: bs, s₂, ?_, ?_, ha'⟩
        · exact List.cons_prefix_cons.2 ⟨rfl, hl⟩
        · rw [List.mapM_cons]
          rw [bind_of_ok hb, bind_of_ok hbefore]
          rfl
      · exact nomatch h

end Failing

def Yields (I : σ → Prop) (x : EStateM ε σ α) (ok : α → Prop) (fail : ε → Prop) : Prop :=
  ∀ s, I s → Ends x s (fun a s' => I s' ∧ ok a) fun e s' => I s' ∧ fail e

namespace Yields

variable {I : σ → Prop} {x : EStateM ε σ α} {f : α → EStateM ε σ β} {ok : α → Prop}
  {okβ : β → Prop} {fail : ε → Prop}

theorem mono {ok' : α → Prop} (h : Yields I x ok fail) (hok : ∀ a, ok a → ok' a) :
    Yields I x ok' fail :=
  fun s hs => (h s hs).mono (fun _ _ h => ⟨h.1, hok _ h.2⟩) fun _ _ h => h

theorem pure {a : α} (h : ok a) : Yields I (pure a : EStateM ε σ α) ok fail :=
  fun _ hs => Ends.pure ⟨hs, h⟩

theorem throw {e : ε} (h : fail e) : Yields I (throw e : EStateM ε σ α) ok fail :=
  fun _ hs => Ends.throw ⟨hs, h⟩

theorem modify {g : σ → σ} {ok : PUnit → Prop} (hg : ∀ s, I s → I (g s)) (h : ok ⟨⟩) :
    Yields I (modify g : EStateM ε σ PUnit) ok fail :=
  fun s hs => Ends.modify ⟨hg s hs, h⟩

theorem bind (hx : Yields I x ok fail) (hf : ∀ a, ok a → Yields I (f a) okβ fail) :
    Yields I (x >>= f) okβ fail :=
  fun s hs => Ends.bind (hx s hs) (fun a s' ha => hf a ha.2 s' ha.1) fun _ _ h => h

theorem bind_get {f : σ → EStateM ε σ β} (hf : ∀ s, I s → Yields I (f s) okβ fail) :
    Yields I (get >>= f) okβ fail :=
  fun s hs => Ends.bind_get (hf s hs s hs)

theorem of_map {g : α → β} (h : Yields I (g <$> x) okβ fail) :
    Yields I x (fun a => okβ (g a)) fail :=
  fun s hs => Ends.of_map (h s hs)

theorem mapM {l : List α} (hf : ∀ a ∈ l, Yields I (f a) okβ fail) :
    Yields I (l.mapM f) (fun bs => ∀ b ∈ bs, okβ b) fail := by
  induction l with
  | nil => exact .pure fun b hb => absurd hb List.not_mem_nil
  | cons a l ih =>
    rw [List.mapM_cons]
    refine (hf a (by simp)).bind fun b hb => ?_
    refine (ih fun c hc => hf c (by simp [hc])).bind fun bs hbs => ?_
    exact .pure (List.forall_mem_cons.2 ⟨hb, hbs⟩)

end Yields

end QueryTyping
