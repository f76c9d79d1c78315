import HostMonitor.Files.Tree

namespace HostMonitor.Files.Tree

variable {t u : Tree} {p : Path} {place target : Place} {names : List String} {e : Option Entry}
  {content : List UInt8}

theorem look?_put_of_ne (other : place ≠ target) :
    (t.put target e).look? place = t.look? place := by
  simp [look?, put, List.lookup_cons, beq_false_of_ne other]

theorem look?_put_self (below : target ≠ []) : (t.put target e).look? target = e := by
  simp [look?, put, below]

theorem ne_nil_of_look? (free : t.look? target ≠ some .directory) : target ≠ [] := by
  rintro rfl
  exact free rfl

theorem walk_put (walked : t.walk place names = .ok target)
    (free : t.look? target ≠ some .directory) : (t.put target e).walk place names = .ok target := by
  induction names generalizing place with
  | nil => exact walked
  | cons name names ih =>
    unfold walk at walked ⊢
    split at walked
    · cases walked
    · cases walked
    · next directory =>
      have other : place ≠ target := fun same => free (same ▸ directory)
      rw [look?_put_of_ne other, directory]
      dsimp only
      split at walked
      · next up => rw [if_pos up]; exact ih walked
      · next down =>
        split at walked
        · cases walked
        · next short => rw [if_neg down, if_neg short]; exact ih walked

theorem resolve_put (resolved : t.resolve p = .ok target)
    (free : t.look? target ≠ some .directory) : (t.put target e).resolve p = .ok target := by
  unfold resolve at resolved ⊢
  split at resolved
  · cases resolved
  · next valid =>
    rw [if_neg valid]
    exact walk_put resolved free

theorem write_eq_ok (written : t.write p content = .ok u) :
    ∃ place, t.resolve p = .ok place ∧ t.look? place ≠ some .directory ∧ p.slash = false ∧
      u = t.put place (some (.file content)) := by
  unfold write at written
  cases resolved : t.resolve p with
  | error e => rw [resolved] at written; cases written
  | ok place =>
    rw [resolved] at written
    simp only [bind, Except.bind] at written
    split at written
    · cases written
    · next found =>
      split at written
      · cases written
      · next bare =>
        cases written
        exact ⟨place, rfl, by simp [found], Bool.not_eq_true _ ▸ bare, rfl⟩
    · next found =>
      split at written
      · cases written
      · next bare =>
        cases written
        exact ⟨place, rfl, by simp [found], Bool.not_eq_true _ ▸ bare, rfl⟩

theorem read_eq_ok (resolved : t.resolve p = .ok place)
    (found : t.look? place = some (.file content)) (bare : p.slash = false) :
    t.read p = .ok content := by
  simp only [read, resolved, bind, Except.bind, found, bare]
  rfl

theorem read_of_write (written : t.write p content = .ok u) : u.read p = .ok content := by
  obtain ⟨place, resolved, free, bare, rfl⟩ := write_eq_ok written
  exact read_eq_ok (resolve_put resolved free) (look?_put_self (ne_nil_of_look? free)) bare

end HostMonitor.Files.Tree
