import Mathlib.Algebra.Field.Rat
import Mathlib.Data.List.DropRight
import Mathlib.Data.List.TakeWhile
import Mathlib.Tactic.FieldSimp
import ShieldedPool.Amount
import ShieldedPool.Proofs.Arithmetic
import ShieldedPool.Proofs.Result
import ShieldedPool.Proofs.Text.Decimal

namespace ShieldedPool.Amount

open Text (trimList)
open Text.Decimal (digit isDigit number digitsOf render padLeft)

section Reading

inductive Denotes : List Char → ℚ → Prop where
  | whole {ds : List ℕ} (hds : ∀ d ∈ ds, d < 10) (hne : ds ≠ []) :
      Denotes (ds.map digit) (number ds)
  | pointed {ds es : List ℕ} (hds : ∀ d ∈ ds, d < 10) (hes : ∀ e ∈ es, e < 10)
      (hne : ds ≠ [] ∨ es ≠ []) (hle : es.length ≤ 6) :
      Denotes (ds.map digit ++ '.' :: es.map digit) (number ds + number es / 10 ^ es.length)

structure Numeral (cs : List Char) (ds es : List ℕ) : Prop where
  split : splitPoint cs = (ds.map digit, es.map digit)
  whole : ∀ d ∈ ds, d < 10
  fraction : ∀ e ∈ es, e < 10
  nonempty : ds ≠ [] ∨ es ≠ []
  short : es.length ≤ 6

def unitsOf (ds es : List ℕ) : ℕ := number ds * 10 ^ 6 + number es * 10 ^ (6 - es.length)

variable {cs : List Char} {ds es : List ℕ} {v : ℚ} {s : String}

theorem cast_unitsOf (h : es.length ≤ 6) :
    ((number ds : ℚ) + number es / 10 ^ es.length) * 10 ^ 6 = (unitsOf ds es : ℕ) := by
  have hscale : (10 : ℚ) ^ 6 = 10 ^ (6 - es.length) * 10 ^ es.length := by
    rw [← pow_add, Nat.sub_add_cancel h]
  have hfraction : (number es : ℚ) / 10 ^ es.length * 10 ^ 6 =
      number es * 10 ^ (6 - es.length) := by
    rw [hscale]
    field_simp
  rw [add_mul, hfraction, unitsOf]
  push_cast
  rfl

theorem ne_point_of_digits (h : ∀ d ∈ ds, d < 10) : ∀ c ∈ ds.map digit, (c != '.') = true :=
  List.forall_mem_map.mpr fun d hd => bne_iff_ne.mpr (Text.Decimal.digit_ne_mark d (h d hd)).1

theorem splitPoint_whole (h : ∀ d ∈ ds, d < 10) :
    splitPoint (ds.map digit) = (ds.map digit, []) := by
  have hdigits := ne_point_of_digits h
  rw [splitPoint, List.takeWhile_eq_self_iff.mpr hdigits, List.dropWhile_eq_nil_iff.mpr hdigits]
  rfl

theorem splitPoint_pointed (h : ∀ d ∈ ds, d < 10) (cs : List Char) :
    splitPoint (ds.map digit ++ '.' :: cs) = (ds.map digit, cs) := by
  have hdigits := ne_point_of_digits h
  rw [splitPoint, List.takeWhile_append_of_pos hdigits, List.dropWhile_append_of_pos hdigits]
  simp

theorem splitPoint_cases (cs : List Char) :
    cs = (splitPoint cs).1 ∧ (splitPoint cs).2 = [] ∨
      cs = (splitPoint cs).1 ++ '.' :: (splitPoint cs).2 := by
  have hparts := List.takeWhile_append_dropWhile (p := (· != '.')) (l := cs)
  unfold splitPoint
  cases hrest : cs.dropWhile (· != '.') with
  | nil =>
    rw [hrest, List.append_nil] at hparts
    exact .inl ⟨hparts.symm, rfl⟩
  | cons c rest =>
    have hpoint : c = '.' := by
      have hhead := List.head_dropWhile_not (· != '.') (l := cs) (by simp [hrest])
      simpa [hrest] using hhead
    rw [hrest, hpoint] at hparts
    exact .inr hparts.symm

theorem Denotes.trimList (h : Denotes cs v) : trimList cs = cs := by
  have hdigits {ds : List ℕ} (hds : ∀ d ∈ ds, d < 10) :
      ∀ c ∈ ds.map digit, Text.isBlank c = false :=
    List.forall_mem_map.mpr fun d hd => Text.Decimal.digit_not_blank d (hds d hd)
  refine Text.trimList_of_not_blank ?_
  cases h with
  | whole hds => exact hdigits hds
  | pointed hds hes =>
    rw [List.forall_mem_append, List.forall_mem_cons]
    exact ⟨hdigits hds, rfl, hdigits hes⟩

theorem Denotes.numeral (h : Denotes cs v) :
    ∃ ds es, Numeral cs ds es ∧ v * 10 ^ 6 = (unitsOf ds es : ℕ) := by
  cases h with
  | @whole ds hds hne =>
    have hshort : ([] : List ℕ).length ≤ 6 := Nat.zero_le 6
    refine ⟨ds, [], ⟨splitPoint_whole hds, hds, by simp, .inl hne, hshort⟩, ?_⟩
    rw [← cast_unitsOf hshort]
    simp [number]
  | @pointed ds es hds hes hne hle =>
    exact ⟨ds, es, ⟨splitPoint_pointed hds _, hds, hes, hne, hle⟩, cast_unitsOf hle⟩

theorem Numeral.denotes (h : Numeral cs ds es) :
    ∃ v, Denotes cs v ∧ v * 10 ^ 6 = (unitsOf ds es : ℕ) := by
  refine ⟨_, ?_, cast_unitsOf h.short⟩
  have hparts := splitPoint_cases cs
  rw [h.split] at hparts
  rcases hparts with ⟨hcs, hes⟩ | hcs
  · have hnil : es = [] := List.map_eq_nil_iff.mp hes
    subst hnil
    have hne : ds ≠ [] := h.nonempty.resolve_right fun hne => hne rfl
    rw [hcs]
    simpa [number] using Denotes.whole h.whole hne
  · rw [hcs]
    exact .pointed h.whole h.fraction h.nonempty h.short

theorem Numeral.ne_nil (h : Numeral cs ds es) : cs ≠ [] := by
  rintro rfl
  have hsplit : (([], []) : List Char × List Char) = (ds.map digit, es.map digit) := h.split
  obtain ⟨hds, hes⟩ := Prod.mk.inj hsplit
  rcases h.nonempty with hne | hne
  · exact hne (List.map_eq_nil_iff.mp hds.symm)
  · exact hne (List.map_eq_nil_iff.mp hes.symm)

theorem fitting_ite (p : Prop) [Decidable p] (u : UInt64) :
    fitting (if p then some u else none) = if p then .ok u else .error .overflow := by
  split <;> rfl

theorem wholeUnits_map_digit (h : ∀ d ∈ ds, d < 10) :
    wholeUnits (ds.map digit) = if number ds * 10 ^ 6 < UInt64.size
      then .ok (UInt64.ofNat (number ds * 10 ^ 6)) else .error .overflow := by
  have hcoin : Protocol.unitsPerCoin = 10 ^ 6 := rfl
  unfold wholeUnits
  split
  case isTrue hempty =>
    have hnil : ds = [] := by simpa using hempty
    subst hnil
    rfl
  case isFalse hempty =>
    have hne : ds ≠ [] := by simpa using hempty
    rw [Text.Decimal.readBelow_map_digit (by decide) hne h]
    by_cases hfits : number ds < UInt64.size
    case pos =>
      rw [if_pos hfits, hcoin]
      dsimp only
      rw [checkedMul_ofNat hfits (by decide), fitting_ite]
    case neg =>
      have hlarge : ¬ number ds * 10 ^ 6 < UInt64.size := fun hlt =>
        hfits (Nat.lt_of_le_of_lt (Nat.le_mul_of_pos_right _ (by decide)) hlt)
      rw [if_neg hfits, if_neg hlarge]

theorem fractionUnits_map_digit (h : ∀ e ∈ es, e < 10) (hle : es.length ≤ 6) :
    number es * 10 ^ (6 - es.length) < 10 ^ 6 ∧
      fractionUnits s (es.map digit) = .ok (UInt64.ofNat (number es * 10 ^ (6 - es.length))) := by
  have hdigits : ∀ e ∈ es ++ List.replicate (6 - es.length) 0, e < 10 :=
    List.forall_mem_append.mpr ⟨h, fun e he => by rw [List.eq_of_mem_replicate he]; decide⟩
  have hlength : (es ++ List.replicate (6 - es.length) 0).length = 6 := by
    rw [List.length_append, List.length_replicate, Nat.add_sub_cancel' hle]
  have hlt := Text.Decimal.number_lt hdigits
  rw [hlength, Text.Decimal.number_padded] at hlt
  refine ⟨hlt, ?_⟩
  unfold fractionUnits
  split
  case isTrue hempty =>
    have hnil : es = [] := by simpa using hempty
    subst hnil
    rfl
  case isFalse =>
    have hne : es ++ List.replicate (6 - es.length) 0 ≠ [] :=
      List.ne_nil_of_length_pos (by rw [hlength]; decide)
    have hpadded : Text.Decimal.padRight Protocol.unitDecimals (es.map digit) =
        (es ++ List.replicate (6 - es.length) 0).map digit :=
      Text.Decimal.padRight_map_digit 6 es
    rw [hpadded, Text.Decimal.readBelow_map_digit (by decide) hne hdigits,
      Text.Decimal.number_padded, if_pos (Nat.lt_trans hlt (by decide))]

theorem parse_of_numeral (h : Numeral (trimList s.toList) ds es) :
    parse s = if unitsOf ds es < UInt64.size then .ok (ofUnits (UInt64.ofNat (unitsOf ds es)))
      else .error .overflow := by
  have hdigits : (ds.map digit).all isDigit = true ∧ (es.map digit).all isDigit = true :=
    ⟨Text.Decimal.all_isDigit_iff.mpr ⟨ds, h.whole, rfl⟩,
      Text.Decimal.all_isDigit_iff.mpr ⟨es, h.fraction, rfl⟩⟩
  have hsome : ((ds.map digit).isEmpty && (es.map digit).isEmpty) = false := by
    rcases h.nonempty with hne | hne <;> simp [hne]
  have hshort : ¬ Protocol.unitDecimals < (es.map digit).length := by
    rw [List.length_map]
    exact Nat.not_lt.mpr h.short
  obtain ⟨hlt, hfraction⟩ := fractionUnits_map_digit (s := s) h.fraction h.short
  have hsmall : number es * 10 ^ (6 - es.length) < UInt64.size := Nat.lt_trans hlt (by decide)
  unfold parse
  split
  case h_1 hnil => exact absurd hnil h.ne_nil
  case h_2 =>
    rw [h.split]
    dsimp only
    rw [hsome, hdigits.1, hdigits.2, if_neg (by decide), if_neg (by decide), if_neg hshort,
      wholeUnits_map_digit h.whole, hfraction]
    by_cases hfits : number ds * 10 ^ 6 < UInt64.size
    case pos =>
      rw [if_pos hfits, ok_bind, ok_bind, checkedAdd_ofNat hfits hsmall, fitting_ite, unitsOf]
      by_cases hunits : number ds * 10 ^ 6 + number es * 10 ^ (6 - es.length) < UInt64.size
      case pos => rw [if_pos hunits, if_pos hunits, ok_bind]; rfl
      case neg => rw [if_neg hunits, if_neg hunits]; rfl
    case neg =>
      have hlarge : ¬ unitsOf ds es < UInt64.size := fun hlt =>
        hfits (Nat.lt_of_le_of_lt (Nat.le_add_right _ _) hlt)
      rw [if_neg hfits, if_neg hlarge]
      rfl

theorem numeral_or_refused (s : String) : (∃ ds es, Numeral (trimList s.toList) ds es) ∨
    ∃ e, parse s = .error e ∧ e ≠ .overflow := by
  unfold parse
  split
  case h_1 => exact .inr ⟨_, rfl, by simp⟩
  case h_2 cs hcs =>
    dsimp only
    split
    case isTrue => exact .inr ⟨_, rfl, by simp⟩
    case isFalse hsome =>
      split
      case isTrue => exact .inr ⟨_, rfl, by simp⟩
      case isFalse hdigits =>
        split
        case isTrue => exact .inr ⟨_, rfl, by simp⟩
        case isFalse hshort =>
          rw [Bool.not_eq_true', Bool.not_eq_false, Bool.and_eq_true] at hdigits
          obtain ⟨ds, hds, hwhole⟩ := Text.Decimal.all_isDigit_iff.mp hdigits.1
          obtain ⟨es, hes, hfraction⟩ := Text.Decimal.all_isDigit_iff.mp hdigits.2
          rw [hfraction, List.length_map] at hshort
          refine .inl ⟨ds, es, Prod.ext hwhole hfraction, hds, hes, ?_, Nat.not_lt.mp hshort⟩
          by_contra hnone
          rw [not_or, not_not, not_not] at hnone
          rw [hwhole, hfraction, hnone.1, hnone.2] at hsome
          exact hsome rfl

theorem parse_eq_ok_iff {a : Amount} : parse s = .ok a ↔
    a = ofUnits a.units ∧ ∃ v, Denotes (trimList s.toList) v ∧ v * 10 ^ 6 = a.units.toNat := by
  constructor
  · intro h
    rcases numeral_or_refused s with ⟨ds, es, hnumeral⟩ | ⟨e, he, -⟩
    · rw [parse_of_numeral hnumeral] at h
      split at h
      case isTrue hlt =>
        cases h
        obtain ⟨v, hv, hunits⟩ := hnumeral.denotes
        exact ⟨rfl, v, hv, by rw [hunits, ofUnits, UInt64.toNat_ofNat_of_lt' hlt]⟩
      case isFalse => cases h
    · rw [h] at he
      cases he
  · rintro ⟨ha, v, hv, hunits⟩
    obtain ⟨ds, es, hnumeral, hvalue⟩ := hv.numeral
    rw [hvalue, Nat.cast_inj] at hunits
    rw [parse_of_numeral hnumeral, hunits, if_pos a.units.toNat_lt_size, UInt64.ofNat_toNat, ← ha]

theorem parse_overflow_iff : parse s = .error .overflow ↔
    ∃ v, Denotes (trimList s.toList) v ∧ 2 ^ 64 ≤ v * 10 ^ 6 := by
  have hsize : (2 : ℚ) ^ 64 = (UInt64.size : ℕ) := by norm_num [UInt64.size]
  constructor
  · intro h
    rcases numeral_or_refused s with ⟨ds, es, hnumeral⟩ | ⟨e, he, hne⟩
    · rw [parse_of_numeral hnumeral] at h
      split at h
      case isTrue => cases h
      case isFalse hlarge =>
        obtain ⟨v, hv, hunits⟩ := hnumeral.denotes
        refine ⟨v, hv, ?_⟩
        rw [hunits, hsize, Nat.cast_le]
        exact Nat.not_lt.mp hlarge
    · rw [h] at he
      cases he
      exact absurd rfl hne
  · rintro ⟨v, hv, hlarge⟩
    obtain ⟨ds, es, hnumeral, hunits⟩ := hv.numeral
    rw [hunits, hsize, Nat.cast_le] at hlarge
    rw [parse_of_numeral hnumeral, if_neg (Nat.not_lt.mpr hlarge)]

end Reading

section Display

inductive Grouped : List Char → Prop where
  | first {g : List Char} (hdigits : g.all isDigit) (hne : g ≠ []) (hle : g.length ≤ 3) : Grouped g
  | next {cs g : List Char} (h : Grouped cs) (hdigits : g.all isDigit) (hlength : g.length = 3) :
      Grouped (cs ++ ',' :: g)

inductive Displayed : List Char → Prop where
  | whole {cs : List Char} (h : Grouped cs) : Displayed cs
  | pointed {cs fs : List Char} (h : Grouped cs) (hdigits : fs.all isDigit) (hne : fs ≠ [])
      (hlast : fs.getLast hne ≠ '0') : Displayed (cs ++ '.' :: fs)

def plain (cs : List Char) : List Char := cs.filter (· ≠ ',')

theorem plain_append (cs ds : List Char) : plain (cs ++ ds) = plain cs ++ plain ds :=
  List.filter_append ..

theorem plain_cons (c : Char) (cs : List Char) : plain (c :: cs) = plain [c] ++ plain cs :=
  plain_append [c] cs

theorem plain_digits {cs : List Char} (h : cs.all isDigit) : plain cs = cs := by
  obtain ⟨ds, hds, rfl⟩ := Text.Decimal.all_isDigit_iff.mp h
  refine List.filter_eq_self.mpr (List.forall_mem_map.mpr fun d hd => ?_)
  exact decide_eq_true (Text.Decimal.digit_ne_mark d (hds d hd)).2

theorem plain_separate (cs : List Char) : plain (separate cs) = plain cs := by
  induction cs with
  | nil => rfl
  | cons c cs ih =>
    have hcons : plain (c :: separate cs) = plain (c :: cs) := by
      rw [plain_cons, ih, ← plain_cons]
    unfold separate
    split
    case isTrue => exact hcons
    case isFalse => exact hcons

theorem plain_thousands {cs : List Char} (h : cs.all isDigit) : plain (thousands cs) = cs := by
  cases cs with
  | nil => rfl
  | cons c cs => rw [thousands, plain_cons, plain_separate, ← plain_cons, plain_digits h]

theorem separate_append {g cs : List Char} (hg : g.length < 3) (hcs : cs.length % 3 = 0) :
    separate (g ++ cs) = g ++ separate cs := by
  induction g with
  | nil => rfl
  | cons c g ih =>
    rw [List.length_cons] at hg
    have hinside : ¬ ((g ++ cs).length + 1) % 3 = 0 := by
      rw [List.length_append]
      omega
    rw [List.cons_append, separate, if_neg hinside, ih (by omega), List.cons_append]

theorem separate_group {g cs : List Char} (hg : g.length = 3) (hcs : cs.length % 3 = 0) :
    separate (g ++ cs) = ',' :: g ++ separate cs := by
  cases g with
  | nil => cases hg
  | cons c g =>
    rw [List.length_cons] at hg
    have hbegins : ((g ++ cs).length + 1) % 3 = 0 := by
      rw [List.length_append]
      omega
    rw [List.cons_append, separate, if_pos hbegins, separate_append (by omega) hcs]
    rfl

theorem Grouped.append_separate {front cs : List Char} {k : ℕ} (hfront : Grouped front)
    (h : cs.all isDigit) (hlength : cs.length = 3 * k) : Grouped (front ++ separate cs) := by
  induction k generalizing front cs with
  | zero =>
    rw [List.length_eq_zero_iff.mp hlength]
    simpa [separate] using hfront
  | succ k ih =>
    have hparts := List.take_append_drop 3 cs
    have hgroup : (cs.take 3).length = 3 := List.length_take_of_le (by omega)
    have hrest : (cs.drop 3).length = 3 * k := by
      rw [List.length_drop]
      omega
    rw [← hparts, List.all_append, Bool.and_eq_true] at h
    rw [← hparts, separate_group hgroup (by omega), ← List.append_assoc]
    exact ih (.next hfront h.1 hgroup) h.2 hrest

theorem grouped_thousands {cs : List Char} (hne : cs ≠ []) (h : cs.all isDigit) :
    Grouped (thousands cs) := by
  obtain ⟨c, cs, rfl⟩ := List.exists_cons_of_ne_nil hne
  have hparts := List.take_append_drop (cs.length % 3) cs
  have hgroup : (cs.take (cs.length % 3)).length = cs.length % 3 :=
    List.length_take_of_le (Nat.mod_le _ _)
  have hrest : (cs.drop (cs.length % 3)).length = 3 * (cs.length / 3) := by
    rw [List.length_drop]
    omega
  have hdigits : (c :: cs.take (cs.length % 3)).all isDigit ∧
      (cs.drop (cs.length % 3)).all isDigit := by
    rw [← Bool.and_eq_true, ← List.all_append, List.cons_append, hparts]
    exact h
  have hthousands : thousands (c :: cs) =
      c :: cs.take (cs.length % 3) ++ separate (cs.drop (cs.length % 3)) := by
    rw [thousands, List.cons_append, ← separate_append (by omega) (by omega), hparts]
  rw [hthousands]
  refine Grouped.append_separate (.first hdigits.1 (List.cons_ne_nil _ _) ?_) hdigits.2 hrest
  rw [List.length_cons]
  omega

theorem rdropWhile_zeros {ds : List ℕ} (h : ∀ d ∈ ds, d < 10) : ∃ es : List ℕ,
    (ds.map digit).rdropWhile (· == '0') = es.map digit ∧ (∀ e ∈ es, e < 10) ∧
      es.length ≤ ds.length ∧ number es * 10 ^ (ds.length - es.length) = number ds := by
  induction ds using List.reverseRecOn with
  | nil => exact ⟨[], rfl, h, Nat.le_refl 0, rfl⟩
  | append_singleton ds d ih =>
    have hd := Text.Decimal.digit_eq_zero d (h d (by simp))
    rw [List.map_append, List.map_singleton, List.rdropWhile_concat, hd, List.length_append]
    by_cases hzero : d = 0
    case pos =>
      obtain ⟨es, hdrop, hes, hle, hnumber⟩ := ih fun x hx => h x (List.mem_append_left _ hx)
      rw [if_pos (by simpa using hzero), hdrop, hzero, Text.Decimal.number_snoc, ← hnumber]
      refine ⟨es, rfl, hes, Nat.le_succ_of_le hle, ?_⟩
      rw [List.length_singleton, Nat.succ_sub hle, pow_succ, Nat.mul_assoc, Nat.add_zero]
    case neg =>
      rw [if_neg (by simpa using hzero)]
      refine ⟨ds ++ [d], by simp, h, by simp, by simp⟩

theorem fraction_eq {n : ℕ} (h : n < 10 ^ 6) : ∃ es : List ℕ, fraction n = es.map digit ∧
    (∀ e ∈ es, e < 10) ∧ es.length ≤ 6 ∧ number es * 10 ^ (6 - es.length) = n := by
  obtain ⟨ds, hds, hpad, hlength, hnumber⟩ := Text.Decimal.padLeft_render (k := 6) (by decide) h
  obtain ⟨es, hdrop, hes, hle, hvalue⟩ := rdropWhile_zeros hds
  rw [hlength] at hle hvalue
  refine ⟨es, ?_, hes, hle, hvalue.trans hnumber⟩
  rw [← hdrop, ← hpad]
  rfl

theorem fraction_last (n : ℕ) (hne : fraction n ≠ []) : (fraction n).getLast hne ≠ '0' := by
  have hlast := List.rdropWhile_last_not (· == '0') (padLeft Protocol.unitDecimals (render n)) hne
  exact fun h => hlast (beq_iff_eq.mpr h)

theorem displayed (n : ℕ) : Displayed (displayList n) := by
  have hgrouped : Grouped (thousands (render (n / Protocol.unitsPerCoin))) :=
    grouped_thousands (Text.Decimal.render_ne_nil _) (Text.Decimal.all_isDigit_render _)
  obtain ⟨es, hfraction, hes, -⟩ := fraction_eq (Nat.mod_lt n (by decide : 0 < 10 ^ 6))
  have hdigits : (fraction (n % Protocol.unitsPerCoin)).all isDigit :=
    Text.Decimal.all_isDigit_iff.mpr ⟨es, hes, hfraction⟩
  have hlast := fraction_last (n % Protocol.unitsPerCoin)
  unfold displayList
  dsimp only
  split
  case h_1 => exact .whole hgrouped
  case h_2 fs hne =>
    have hne : fraction (n % Protocol.unitsPerCoin) ≠ [] := fun hnil => hne hnil
    exact .pointed hgrouped hdigits hne (hlast hne)

theorem numeral_displayList (n : ℕ) :
    ∃ es, Numeral (plain (displayList n)) (digitsOf (n / 10 ^ 6)) es ∧
      unitsOf (digitsOf (n / 10 ^ 6)) es = n := by
  have hds := Text.Decimal.lt_of_mem_digitsOf (n / 10 ^ 6)
  have hne := Text.Decimal.digitsOf_ne_nil (n / 10 ^ 6)
  have hwhole : plain (thousands (render (n / Protocol.unitsPerCoin))) =
      (digitsOf (n / 10 ^ 6)).map digit := by
    rw [plain_thousands (Text.Decimal.all_isDigit_render _), Text.Decimal.render_eq]
    rfl
  obtain ⟨es, hfraction, hes, hle, hnumber⟩ := fraction_eq (Nat.mod_lt n (by decide : 0 < 10 ^ 6))
  have hfraction : fraction (n % Protocol.unitsPerCoin) = es.map digit := hfraction
  have hdigits : (es.map digit).all isDigit := Text.Decimal.all_isDigit_iff.mpr ⟨es, hes, rfl⟩
  refine ⟨es, ⟨?_, hds, hes, .inl hne, hle⟩, ?_⟩
  · unfold displayList
    dsimp only
    split
    case h_1 hnil =>
      rw [hwhole, splitPoint_whole hds, ← hfraction, hnil]
    case h_2 =>
      have hpoint : plain ('.' :: es.map digit) = '.' :: es.map digit :=
        congrArg ('.' :: ·) (plain_digits hdigits)
      rw [hfraction, plain_append, hwhole, hpoint, splitPoint_pointed hds]
  · rw [unitsOf, Text.Decimal.number_digitsOf, hnumber]
    exact Nat.div_add_mod' n _

theorem parse_plain_display (u : UInt64) :
    parse (String.ofList (plain (displayList u.toNat))) = .ok (ofUnits u) := by
  obtain ⟨es, hnumeral, hunits⟩ := numeral_displayList u.toNat
  obtain ⟨v, hv, hvalue⟩ := hnumeral.denotes
  refine parse_eq_ok_iff.mpr ⟨rfl, v, ?_, ?_⟩
  · rw [String.toList_ofList, hv.trimList]
    exact hv
  · rw [hvalue, hunits]
    rfl

theorem decimal_texts :
    (∀ s a, parse s = .ok a ↔
      a = ofUnits a.units ∧ ∃ v, Denotes (trimList s.toList) v ∧ v * 10 ^ 6 = a.units.toNat) ∧
    (∀ s, parse s = .error .overflow ↔
      ∃ v, Denotes (trimList s.toList) v ∧ 2 ^ 64 ≤ v * 10 ^ 6) ∧
    ∀ u, Displayed (ofUnits u).display.toList ∧
      parse (String.ofList ((ofUnits u).display.toList.filter (· ≠ ','))) = .ok (ofUnits u) := by
  refine ⟨fun _ _ => parse_eq_ok_iff, fun _ => parse_overflow_iff, fun u => ?_⟩
  have hdisplay : (ofUnits u).display.toList = displayList u.toNat := String.toList_ofList
  rw [hdisplay]
  exact ⟨displayed u.toNat, parse_plain_display u⟩

end Display

end ShieldedPool.Amount
