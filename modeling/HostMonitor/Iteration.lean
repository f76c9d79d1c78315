namespace HostMonitor

def exhaust {α : Type} (step? : α → Option α) : Nat → α → α
  | 0, x => x
  | n + 1, x =>
    match step? x with
    | some y => exhaust step? n y
    | none => x

end HostMonitor
