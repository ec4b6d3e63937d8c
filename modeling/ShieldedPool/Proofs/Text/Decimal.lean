import Mathlib.Data.List.Induction
import Mathlib.Data.Nat.Digits.Lemmas
import Mathlib.Tactic.Positivity
import Mathlib.Tactic.Ring
import ShieldedPool.Text.Chars
import ShieldedPool.Text.Decimal

namespace ShieldedPool.Text.Decimal

section Digits

theorem digitValue?_digit : ∀ d < 10, digitValue? (digit d) = some d := by decide

theorem digit_not_blank : ∀ d < 10, isBlank (digit d) = false := by decide

theorem digit_ne_mark : ∀ d < 10, digit d ≠ '.' ∧ digit d ≠ ',' := by decide

theorem digit_ne_plus : ∀ d < 10, digit d ≠ '+' := by decide

theorem digit_eq_zero : ∀ d < 10, (digit d == '0') = (d == 0) := by decide

theorem isDigit_iff {c : Char} : isDigit c = true ↔ ∃ d < 10, c = digit d := by
  constructor
  · intro h
    obtain ⟨d, hd⟩ := Option.isSome_iff_exists.mp h
    unfold digitValue? at hd
    split at hd
    case isTrue hbetween =>
      cases hd
      have hleast : 48 ≤ c.toNat := hbetween.1
      have hgreatest : c.toNat ≤ 57 := hbetween.2
      refine ⟨c.toNat - 48, by omega, ?_⟩
      rw [digit, Nat.mod_eq_of_lt (by omega), Nat.add_sub_cancel' hleast, Char.ofNat_toNat]
    case isFalse => cases hd
  · rintro ⟨d, hd, rfl⟩
    rw [isDigit, digitValue?_digit d hd]
    rfl

theorem all_isDigit_iff {cs : List Char} :
    cs.all isDigit = true ↔ ∃ ds : List ℕ, (∀ d ∈ ds, d < 10) ∧ cs = ds.map digit := by
  induction cs with
  | nil => exact iff_of_true rfl ⟨[], by simp, rfl⟩
  | cons c cs ih =>
    rw [List.all_cons, Bool.and_eq_true, isDigit_iff, ih]
    constructor
    · rintro ⟨⟨d, hd, rfl⟩, ds, hds, rfl⟩
      exact ⟨d :: ds, List.forall_mem_cons.mpr ⟨hd, hds⟩, rfl⟩
    · rintro ⟨ds, hds, h⟩
      cases ds with
      | nil => cases h
      | cons d ds =>
        obtain ⟨rfl, rfl⟩ := List.cons_eq_cons.mp h
        exact ⟨⟨d, hds d (List.mem_cons_self ..), rfl⟩, ds,
          fun x hx => hds x (List.mem_cons_of_mem d hx), rfl⟩

end Digits

section Numbers

def number (ds : List ℕ) : ℕ := Nat.ofDigits 10 ds.reverse

variable {ds : List ℕ}

theorem number_append (ds es : List ℕ) :
    number (ds ++ es) = number ds * 10 ^ es.length + number es := by
  rw [number, List.reverse_append, Nat.ofDigits_append, List.length_reverse, Nat.mul_comm,
    Nat.add_comm]
  rfl

theorem number_replicate_zero (k : ℕ) : number (List.replicate k 0) = 0 := by
  rw [number, List.reverse_replicate, Nat.ofDigits_replicate_zero]

theorem number_singleton (d : ℕ) : number [d] = d := by
  rw [number, List.reverse_singleton, Nat.ofDigits_singleton]

theorem number_snoc (ds : List ℕ) (d : ℕ) : number (ds ++ [d]) = number ds * 10 + d := by
  rw [number_append, number_singleton]
  rfl

theorem number_cons (d : ℕ) (ds : List ℕ) : number (d :: ds) = d * 10 ^ ds.length + number ds := by
  rw [← List.singleton_append, number_append, number_singleton]

theorem number_lt (h : ∀ d ∈ ds, d < 10) : number ds < 10 ^ ds.length := by
  rw [← List.length_reverse]
  exact Nat.ofDigits_lt_base_pow_length (by decide) fun d hd => h d (List.mem_reverse.mp hd)

end Numbers

section Reading

variable {ds : List ℕ} {bound : ℕ}

theorem readDigits_map_digit {n : ℕ} (hn : n < bound) (h : ∀ d ∈ ds, d < 10) :
    readDigits bound n (ds.map digit) =
      if n * 10 ^ ds.length + number ds < bound then .ok (n * 10 ^ ds.length + number ds)
      else .error .tooLarge := by
  induction ds generalizing n with
  | nil =>
    have hnone : n * 10 ^ ([] : List ℕ).length + number [] = n := Nat.mul_one n
    rw [hnone, if_pos hn]
    rfl
  | cons d ds ih =>
    obtain ⟨hd, hds⟩ := List.forall_mem_cons.mp h
    have htotal : n * 10 ^ (d :: ds).length + number (d :: ds) =
        (n * 10 + d) * 10 ^ ds.length + number ds := by
      rw [number_cons, List.length_cons, pow_succ]
      ring
    rw [htotal, List.map_cons, readDigits, digitValue?_digit d hd]
    dsimp only
    split
    case isTrue hlt => exact ih hlt hds
    case isFalse hlarge =>
      have hle : n * 10 + d ≤ (n * 10 + d) * 10 ^ ds.length :=
        Nat.le_mul_of_pos_right _ (by positivity)
      rw [if_neg (by omega)]

theorem readBelow_map_digit (hbound : 0 < bound) (hne : ds ≠ []) (h : ∀ d ∈ ds, d < 10) :
    readBelow bound (ds.map digit) =
      if number ds < bound then .ok (number ds) else .error .tooLarge := by
  obtain ⟨d, ds, rfl⟩ := List.exists_cons_of_ne_nil hne
  have hplus := digit_ne_plus d (h d (List.mem_cons_self ..))
  have hdigits := readDigits_map_digit hbound h
  rw [Nat.zero_mul, Nat.zero_add] at hdigits
  rw [← hdigits, List.map_cons]
  unfold readBelow
  split
  case h_1 heq => cases heq
  case h_2 heq => exact absurd (List.cons_eq_cons.mp heq).1 hplus
  case h_3 heq => exact absurd (List.cons_eq_cons.mp heq).1 hplus
  case h_4 => rfl

theorem padRight_map_digit (k : ℕ) (ds : List ℕ) :
    padRight k (ds.map digit) = (ds ++ List.replicate (k - ds.length) 0).map digit := by
  rw [padRight, List.length_map, List.map_append, List.map_replicate]
  rfl

theorem number_padded (k : ℕ) (ds : List ℕ) :
    number (ds ++ List.replicate k 0) = number ds * 10 ^ k := by
  rw [number_append, number_replicate_zero, List.length_replicate, Nat.add_zero]

end Reading

section Rendering

def digitsOf (n : ℕ) : List ℕ := if n = 0 then [0] else (Nat.digits 10 n).reverse

theorem render_eq (n : ℕ) : render n = (digitsOf n).map digit := by
  fun_induction render n with
  | case1 n hsmall =>
    unfold digitsOf
    split
    case isTrue hzero => rw [hzero]; rfl
    case isFalse hpos => rw [Nat.digits_of_lt 10 n hpos hsmall]; rfl
  | case2 n hlarge ih =>
    have hlast : digit n = digit (n % 10) := by rw [digit, digit, Nat.mod_mod]
    have hfront : digitsOf (n / 10) = (Nat.digits 10 (n / 10)).reverse := if_neg (by omega)
    have hdigits : digitsOf n = digitsOf (n / 10) ++ [n % 10] := by
      rw [hfront, digitsOf, if_neg (by omega), Nat.digits_def' (by decide) (by omega),
        List.reverse_cons]
    rw [ih, hdigits, List.map_append, List.map_singleton, hlast]

theorem digitsOf_ne_nil (n : ℕ) : digitsOf n ≠ [] := by
  unfold digitsOf
  split
  case isTrue => exact List.cons_ne_nil 0 []
  case isFalse hpos => simpa using Nat.digits_ne_nil_iff_ne_zero.mpr hpos

theorem lt_of_mem_digitsOf (n : ℕ) : ∀ d ∈ digitsOf n, d < 10 := by
  unfold digitsOf
  split
  case isTrue => simp
  case isFalse => exact fun d hd => Nat.digits_lt_base (by decide) (List.mem_reverse.mp hd)

theorem all_isDigit_render (n : ℕ) : (render n).all isDigit :=
  all_isDigit_iff.mpr ⟨digitsOf n, lt_of_mem_digitsOf n, render_eq n⟩

theorem render_ne_nil (n : ℕ) : render n ≠ [] := by
  rw [render_eq]
  exact mt List.map_eq_nil_iff.mp (digitsOf_ne_nil n)

theorem number_digitsOf (n : ℕ) : number (digitsOf n) = n := by
  unfold digitsOf
  split
  case isTrue hzero => rw [hzero]; rfl
  case isFalse => rw [number, List.reverse_reverse, Nat.ofDigits_digits]

theorem length_digitsOf_le {n k : ℕ} (hk : 0 < k) (h : n < 10 ^ k) : (digitsOf n).length ≤ k := by
  unfold digitsOf
  split
  case isTrue => exact hk
  case isFalse =>
    rw [List.length_reverse]
    exact (Nat.digits_length_le_iff (by decide) n).mpr h

theorem padLeft_render {n k : ℕ} (hk : 0 < k) (h : n < 10 ^ k) : ∃ ds : List ℕ,
    (∀ d ∈ ds, d < 10) ∧ padLeft k (render n) = ds.map digit ∧ ds.length = k ∧ number ds = n := by
  have hlength := length_digitsOf_le hk h
  refine ⟨List.replicate (k - (digitsOf n).length) 0 ++ digitsOf n, ?_, ?_, ?_, ?_⟩
  · intro d hd
    rcases List.mem_append.mp hd with hd | hd
    · rw [List.eq_of_mem_replicate hd]
      decide
    · exact lt_of_mem_digitsOf n d hd
  · rw [padLeft, render_eq, List.length_map, List.map_append, List.map_replicate]
    rfl
  · rw [List.length_append, List.length_replicate, Nat.sub_add_cancel hlength]
  · rw [number_append, number_replicate_zero, number_digitsOf, Nat.zero_mul, Nat.zero_add]

end Rendering

end ShieldedPool.Text.Decimal
