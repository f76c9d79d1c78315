import HostMonitor.Proofs.Text.Utf8
import HostMonitor.Table

namespace HostMonitor.Text

variable {n m : Nat} {x y : List UInt8} {c d : Char} {s t : String}

theorem ofNat_cons_lt (small : n < 0x100) (small' : m < 0x100) :
    UInt8.ofNat n :: x < UInt8.ofNat m :: y ↔ n < m ∨ n = m ∧ x < y := by
  rw [List.cons_lt_cons_iff, UInt8.lt_iff_toNat_lt, ← UInt8.toNat_inj, toNat_byte small,
    toNat_byte small']

theorem digit_lt (less : n < m) : n / 64 < m / 64 ∨ n / 64 = m / 64 ∧ n % 64 < m % 64 := by
  omega

theorem four_lt (less : n < m) (most : m < 0x200000) :
    [UInt8.ofNat (n / 262144 % 8 + 240), .ofNat (n / 4096 % 64 + 128), .ofNat (n / 64 % 64 + 128),
      .ofNat (n % 64 + 128)] ++ x <
    [UInt8.ofNat (m / 262144 % 8 + 240), .ofNat (m / 4096 % 64 + 128), .ofNat (m / 64 % 64 + 128),
      .ofNat (m % 64 + 128)] ++ y := by
  have second (k : Nat) : k / 4096 = k / 64 / 64 := (Nat.div_div_eq_div_mul k 64 64).symm
  have third (k : Nat) : k / 262144 = k / 64 / 64 / 64 := by
    rw [← second, Nat.div_div_eq_div_mul]
  simp (disch := omega) only [List.cons_append, List.nil_append, ofNat_cons_lt,
    Nat.add_lt_add_iff_right, Nat.add_right_cancel_iff]
  rw [second, second, third, third]
  rcases digit_lt less with less | ⟨same, last⟩
  · rcases digit_lt less with less | ⟨same, last⟩
    · rcases digit_lt less with less | ⟨same, last⟩
      · exact .inl (by omega)
      · exact .inr ⟨by rw [same], .inl last⟩
    · exact .inr ⟨by rw [same], .inr ⟨by rw [same], .inl last⟩⟩
  · exact .inr ⟨by rw [same], .inr ⟨by rw [same], .inr ⟨by rw [same], .inl last⟩⟩⟩

/-- Of two characters the code of the lesser one is the lesser, whatever follows: a longer code has
a greater first byte. -/
theorem utf8EncodeChar_append_lt (less : c < d) :
    String.utf8EncodeChar c ++ x < String.utf8EncodeChar d ++ y := by
  have less : c.val.toNat < d.val.toNat := less
  have bound : d.val.toNat < 0x110000 := by
    have valid : d.val.toNat < 0xd800 ∨ 0xdfff < d.val.toNat ∧ d.val.toNat < 0x110000 := d.valid
    omega
  simp only [String.utf8EncodeChar]
  generalize c.val.toNat = n at less
  generalize d.val.toNat = m at less bound
  by_cases long : n ≤ 0xffff
  · repeat' split
    all_goals
      simp (disch := omega) only [List.cons_append, List.nil_append, ofNat_cons_lt]
      omega
  · rw [if_neg (by omega), if_neg (by omega), if_neg long, if_neg (by omega), if_neg (by omega),
      if_neg (by omega)]
    exact four_lt less (by omega)

theorem flatMap_utf8EncodeChar_lt {cs ds : List Char} (less : cs < ds) :
    cs.flatMap String.utf8EncodeChar < ds.flatMap String.utf8EncodeChar := by
  induction cs generalizing ds with
  | nil =>
    cases ds with
    | nil => cases less
    | cons d ds =>
      rw [List.flatMap_cons, List.flatMap_nil]
      cases code : String.utf8EncodeChar d with
      | nil => exact absurd code String.utf8EncodeChar_ne_nil
      | cons b bs => exact List.nil_lt_cons ..
  | cons c cs ih =>
    cases ds with
    | nil => cases less
    | cons d ds =>
      rw [List.flatMap_cons, List.flatMap_cons]
      rcases List.cons_lt_cons_iff.mp less with first | ⟨rfl, rest⟩
      · exact utf8EncodeChar_append_lt first
      · exact List.append_left_lt (ih rest)

theorem bytes_lt_of_lt (less : s < t) : bytes s < bytes t := by
  rw [bytes_eq, bytes_eq]
  exact flatMap_utf8EncodeChar_lt less

theorem bytes_lt_iff : bytes s < bytes t ↔ s < t := by
  refine ⟨fun less => Classical.byContradiction fun later => ?_, bytes_lt_of_lt⟩
  by_cases earlier : t < s
  · exact List.lt_asymm less (bytes_lt_of_lt earlier)
  · obtain rfl : s = t := String.le_antisymm earlier later
    exact List.lt_irrefl _ less

theorem bytes_injective (same : bytes s = bytes t) : s = t := by
  have back := decode?_bytes s
  rw [same, decode?_bytes] at back
  exact (Option.some.inj back).symm

def Ascending (ks : List String) : Prop := ks.Pairwise fun a b => bytes a < bytes b

section

variable {α : Type} {f : α → String} {xs ys : List α} {ks ls : List String}

theorem ascending_map :
    Ascending (xs.map f) ↔ xs.Pairwise fun a b => bytes (f a) < bytes (f b) :=
  List.pairwise_map

theorem nodup_of_ascending (ascending : Ascending (xs.map f)) : xs.Nodup :=
  (ascending_map.mp ascending).imp fun {a b} less (same : a = b) => List.lt_irrefl _ (same ▸ less)

theorem Ascending.nodup (ascending : Ascending ks) : ks.Nodup :=
  nodup_of_ascending (f := id) (ks.map_id.symm ▸ ascending)

theorem eq_of_ascending (ascending : Ascending (xs.map f)) (ascending' : Ascending (ys.map f))
    (same : ∀ x, x ∈ xs ↔ x ∈ ys) : xs = ys := by
  have members := List.perm_ext_iff_of_nodup (nodup_of_ascending ascending)
    (nodup_of_ascending ascending')
  have sorted := ascending_map.mp ascending
  have sorted' := ascending_map.mp ascending'
  exact List.Perm.eq_of_pairwise (fun _ _ _ _ less later => absurd later (List.lt_asymm less))
    sorted sorted' (members.mpr same)

theorem Ascending.ext (ascending : Ascending ks) (ascending' : Ascending ls)
    (same : ∀ k, k ∈ ks ↔ k ∈ ls) : ks = ls := by
  rw [← List.map_id ks] at ascending
  rw [← List.map_id ls] at ascending'
  exact eq_of_ascending ascending ascending' same

end

end HostMonitor.Text

namespace HostMonitor

variable {a b c : String} {ks : List String}

theorem nameLE_iff : nameLE a b = true ↔ ¬ Text.bytes b < Text.bytes a := by
  simp [nameLE, Text.bytes_lt_iff]

theorem nameLE_total (a b : String) : (nameLE a b || nameLE b a) = true := by
  rw [Bool.or_eq_true, nameLE_iff, nameLE_iff]
  exact (Classical.em _).symm.imp_right List.lt_asymm

theorem nameLE_trans (le : nameLE a b = true) (le' : nameLE b c = true) : nameLE a c = true := by
  rw [nameLE_iff] at le le' ⊢
  exact List.le_trans le le'

theorem bytes_lt_of_nameLE (le : nameLE a b = true) (other : a ≠ b) :
    Text.bytes a < Text.bytes b := by
  refine Classical.byContradiction fun later => other (Text.bytes_injective ?_)
  exact List.le_antisymm (nameLE_iff.mp le) later

theorem ascending_of_nameLE (sorted : ks.Pairwise fun a b => nameLE a b = true)
    (distinct : ks.Nodup) : Text.Ascending ks :=
  sorted.imp₂ (fun {_ _} le other => bytes_lt_of_nameLE le other) distinct

theorem ascending_eraseDups {ks : List String} (sorted : ks.Pairwise fun a b => nameLE a b = true) :
    Text.Ascending ks.eraseDups := by
  match ks with
  | [] => exact .nil
  | k :: ks =>
    obtain ⟨least, rest⟩ := List.pairwise_cons.mp sorted
    rw [List.eraseDups_cons]
    refine .cons (fun b hb => ?_) (ascending_eraseDups (rest.filter _))
    obtain ⟨later, other⟩ := List.mem_filter.mp (List.mem_eraseDups.mp hb)
    exact bytes_lt_of_nameLE (least b later) fun same => by simp [same] at other
termination_by ks.length
decreasing_by exact Nat.lt_succ_of_le (List.length_filter_le ..)

end HostMonitor
