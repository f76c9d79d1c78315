import HostMonitor.Time.Span

namespace HostMonitor

/-- A program that ends with an `α`. A question `q` is answered by an `A q`. -/
inductive Dialogue (Q : Type) (A : Q → Type) (α : Type) : Type
  | done (x : α)
  | ask (q : Q) (next : A q → Dialogue Q A α)
  | rest (length : Span) (next : Dialogue Q A α)

namespace Dialogue

variable {Q : Type} {A : Q → Type} {α β σ : Type}

def bind : Dialogue Q A α → (α → Dialogue Q A β) → Dialogue Q A β
  | done x, f => f x
  | ask q next, f => ask q fun a => (next a).bind f
  | rest d next, f => rest d (next.bind f)

instance : Monad (Dialogue Q A) where
  pure := done
  bind := bind

def play (respond : σ → Nat → (q : Q) → A q × σ × Nat) : σ → Nat → Dialogue Q A α → α × σ × Nat
  | s, now, done x => (x, s, now)
  | s, now, ask q next =>
    let (a, s, later) := respond s now q
    (next a).play respond s later
  | s, now, rest d next => next.play respond s (now + d.millis)

end Dialogue

end HostMonitor
