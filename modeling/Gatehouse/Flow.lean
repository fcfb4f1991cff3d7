import Gatehouse.Call

/-! Work that may wait for the service. A flow runs from a state until it ends or has to wait for
    the reply to a request; when the reply comes it goes on from the state as it is then, which
    others may have changed in the meantime. It never waits for anything else, so all that happens
    between two requests happens at once. -/

namespace Gatehouse

/-- How far work has come: it has ended with a result, or it waits for the reply to a request that
    it made in the given state. -/
inductive Progress (σ α : Type) where
  | ended (state : σ) (result : α)
  | waits (state : σ) (request : Request) (resume : Reply → σ → Progress σ α)

namespace Progress

variable {σ α β : Type}

/-- The state in which work ended or began to wait. -/
def state : Progress σ α → σ
  | ended s _ => s
  | waits s _ _ => s

/-- Goes on with more work where the first has ended. -/
def andThen : Progress σ α → (α → σ → Progress σ β) → Progress σ β
  | ended s a, next => next a s
  | waits s request resume, next => waits s request fun reply s => (resume reply s).andThen next

@[simp] theorem andThen_ended (s : σ) (a : α) (next : α → σ → Progress σ β) :
    (ended s a).andThen next = next a s := rfl

@[simp] theorem andThen_waits (s : σ) (request : Request) (resume : Reply → σ → Progress σ α)
    (next : α → σ → Progress σ β) :
    (waits s request resume).andThen next =
      waits s request fun reply s => (resume reply s).andThen next := rfl

/-- Going on twice is going on once with both parts. -/
theorem andThen_assoc {γ : Type} (p : Progress σ α) (f : α → σ → Progress σ β)
    (g : β → σ → Progress σ γ) :
    (p.andThen f).andThen g = p.andThen fun a s => (f a s).andThen g := by
  induction p with
  | ended s a => rfl
  | waits s request resume ih =>
    simp only [andThen_waits]
    congr
    funext reply s
    exact ih reply s

end Progress

/-- Work on a state that may wait, and that may be stopped by a fault. -/
def Flow (σ α : Type) : Type := σ → Progress σ (Except Fault α)

namespace Flow

variable {σ α β : Type}

/-- Work with nothing to do. -/
def give (a : α) : Flow σ α := fun s => .ended s (.ok a)

/-- Stops with a fault. -/
def stop (f : Fault) : Flow σ α := fun s => .ended s (.error f)

/-- Goes on unless a fault has stopped the first part. -/
def andThen (first : Flow σ α) (next : α → Flow σ β) : Flow σ β := fun s =>
  (first s).andThen fun
    | .ok a => next a
    | .error f => stop f

instance : Monad (Flow σ) where
  pure := give
  bind := andThen

/-- Does the work and gives its fault, if there was one, as a value. -/
def outcome (work : Flow σ α) : Flow σ (Except Fault α) := fun s =>
  (work s).andThen fun r s => .ended s (.ok r)

/-- Gives a value or stops with a fault. -/
def ofExcept : Except Fault α → Flow σ α
  | .ok a => give a
  | .error f => stop f

/-- What the state shows at this moment. -/
def read (f : σ → α) : Flow σ α := fun s => .ended s (.ok (f s))

/-- Changes the state. -/
def change (f : σ → σ) : Flow σ Unit := fun s => .ended (f s) (.ok ())

/-- Makes a request and waits for its reply. -/
def ask (request : Request) : Flow σ Reply := fun s =>
  .waits s request fun reply s => .ended s (.ok reply)

/-- Does work and then more work that nothing prevents. If the second part is stopped too, its fault
    is the one that counts. -/
def followedBy (work : Flow σ α) (last : Flow σ Unit) : Flow σ α :=
  andThen (outcome work) fun r => andThen last fun _ => ofExcept r

end Flow

end Gatehouse
