namespace ShieldedPool

def groups {α : Type} (k : Nat) (xs : List α) : List (List α) :=
  match xs with
  | [] => []
  | x :: rest => (x :: rest.take k) :: groups k (rest.drop k)
termination_by xs.length
decreasing_by
  rw [List.length_drop, List.length_cons]
  omega

theorem flatten_groups {α : Type} (k : Nat) (xs : List α) : (groups k xs).flatten = xs := by
  fun_induction groups k xs with
  | case1 => rfl
  | case2 x rest ih => simp [ih]

section

variable {α : Type}

theorem length_groups (k : Nat) (xs : List α) :
    (groups k xs).length = (xs.length + k) / (k + 1) := by
  fun_induction groups k xs with
  | case1 => exact (Nat.div_eq_of_lt (by rw [List.length_nil]; omega)).symm
  | case2 x rest ih =>
    have hcount : (x :: rest).length + k = rest.length + (k + 1) := by
      rw [List.length_cons]
      omega
    rw [List.length_cons, ih, List.length_drop, hcount, Nat.add_div_right _ k.succ_pos]
    rcases Nat.le_total k rest.length with hle | hle
    · rw [Nat.sub_add_cancel hle]
    · rw [Nat.sub_eq_zero_of_le hle, Nat.zero_add, Nat.div_eq_of_lt k.lt_succ_self,
        Nat.div_eq_of_lt (Nat.lt_succ_of_le hle)]

theorem groups_append {k : Nat} {xs : List α} (h : xs.length = k + 1) (ys : List α) :
    groups k (xs ++ ys) = xs :: groups k ys := by
  cases xs with
  | nil => cases h
  | cons x xs =>
    have hlength : xs.length = k := Nat.succ.inj h
    rw [List.cons_append, groups, ← hlength, List.take_left, List.drop_left]

theorem groups_of_length_le {k : Nat} {xs : List α} (h : xs.length ≤ k + 1) (hne : xs ≠ []) :
    groups k xs = [xs] := by
  cases xs with
  | nil => exact absurd rfl hne
  | cons x xs =>
    have hle : xs.length ≤ k := Nat.le_of_succ_le_succ h
    rw [groups, List.take_of_length_le hle, List.drop_of_length_le hle, groups]

theorem length_le_of_mem_groups {k : Nat} {xs g : List α} (h : g ∈ groups k xs) :
    g.length ≤ k + 1 := by
  fun_induction groups k xs with
  | case1 => cases h
  | case2 x rest ih =>
    rcases List.mem_cons.mp h with rfl | h
    · rw [List.length_cons, List.length_take]
      omega
    · exact ih h

theorem length_of_mem_groups {k : Nat} {xs g : List α} (h : xs.length % (k + 1) = 0)
    (hg : g ∈ groups k xs) : g.length = k + 1 := by
  fun_induction groups k xs with
  | case1 => cases hg
  | case2 x rest ih =>
    -- A list of some whole groups has at least one of them.
    have hle : k ≤ rest.length := by
      refine Nat.le_of_not_lt fun hlt => ?_
      rw [List.length_cons, Nat.mod_eq_of_lt (Nat.succ_lt_succ hlt)] at h
      cases h
    rcases List.mem_cons.mp hg with rfl | hg
    · rw [List.length_cons, List.length_take, Nat.min_eq_left hle]
    · have hrest : (rest.drop k).length = (x :: rest).length - (k + 1) := by
        rw [List.length_drop, List.length_cons, Nat.add_sub_add_right]
      have hfull : k + 1 ≤ (x :: rest).length := Nat.succ_le_succ hle
      refine ih ?_ hg
      rw [hrest, ← Nat.mod_eq_sub_mod hfull, h]

end

end ShieldedPool
