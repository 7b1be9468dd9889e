namespace QueryTyping

structure Clock where
  now : Nat
  ended : Nat
  deriving DecidableEq, Repr

namespace Clock

def start : Clock :=
  ⟨0, 0⟩

def sleep (c : Clock) (ms : Nat) : Clock :=
  if ms = 0 then { c with ended := c.ended + 1 } else ⟨c.now + ms, 1⟩

@[simp] theorem now_sleep (c : Clock) (ms : Nat) : (c.sleep ms).now = c.now + ms := by
  simp only [sleep]
  split <;> simp [*]

def patience : Nat :=
  128

/-- A sleep that ends after the limit is cut short by it. One that ends at the limit is not, unless
the run has to look at it there. -/
def exceeds (c : Clock) (limit : Nat) : Bool :=
  limit < c.now || (c.now = limit && patience < c.ended)

theorem exceeds_of_lt {c : Clock} {limit : Nat} (h : limit < c.now) : c.exceeds limit = true := by
  simp [exceeds, h]

theorem not_exceeds_of_lt {c : Clock} {limit : Nat} (h : c.now < limit) :
    c.exceeds limit = false := by
  simp [exceeds]
  omega

end Clock

end QueryTyping
