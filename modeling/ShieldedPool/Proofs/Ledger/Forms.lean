import Mathlib.Data.List.Nodup
import ShieldedPool.Proofs.Ledger.MessagePack

namespace ShieldedPool.Ledger.MessagePack

/-- The headers of one kind of value. The first `fixed` numbers have a leading byte of their own;
after any other leading byte the number follows in so many bytes. -/
structure Format where
  first : Nat
  fixed : Nat
  sized : List (UInt8 × Nat)
  widening : (0 :: sized.map Prod.snd).Pairwise (· < ·)

namespace Format

def number : Format := ⟨0x00, 128, [(0xcc, 1), (0xcd, 2), (0xce, 4), (0xcf, 8)], by decide⟩

def text : Format := ⟨0xa0, 32, [(0xd9, 1), (0xda, 2), (0xdb, 4)], by decide⟩

def blob : Format := ⟨0xc0, 0, [(0xc4, 1), (0xc5, 2), (0xc6, 4)], by decide⟩

def array : Format := ⟨0x90, 16, [(0xdc, 2), (0xdd, 4)], by decide⟩

def map : Format := ⟨0x80, 16, [(0xde, 2), (0xdf, 4)], by decide⟩

inductive Writes (f : Format) (n : Nat) : Bytes → Prop
  | fixed (h : n < f.fixed) : Writes f n [UInt8.ofNat (f.first + n)]
  | sized {s : UInt8 × Nat} (hs : s ∈ f.sized) (h : n < Bytes.capacity s.2) :
      Writes f n (s.1 :: Bytes.natBE s.2 n)

structure Shortest (f : Format) (n : Nat) (bs : Bytes) : Prop where
  writes : f.Writes n bs
  least : ∀ bs', f.Writes n bs' → bs.length ≤ bs'.length

def widened : List (UInt8 × Nat) → Nat → Option Bytes
  | [], _ => none
  | s :: wider, n =>
    if n < Bytes.capacity s.2 then some (s.1 :: Bytes.natBE s.2 n) else widened wider n

def header? (f : Format) (n : Nat) : Option Bytes :=
  if n < f.fixed then some [UInt8.ofNat (f.first + n)] else widened f.sized n

variable {f : Format} {n : Nat} {x y : Bytes}

theorem width_pos {s : UInt8 × Nat} (hs : s ∈ f.sized) : 0 < s.2 :=
  (List.pairwise_cons.mp f.widening).1 s.2 (List.mem_map_of_mem hs)

theorem pairwise_width : f.sized.Pairwise (·.2 < ·.2) :=
  List.pairwise_map.mp (List.pairwise_cons.mp f.widening).2

theorem eq_of_width {s r : UInt8 × Nat} (hs : s ∈ f.sized) (hr : r ∈ f.sized) (h : s.2 = r.2) :
    s = r := by
  have hne : f.sized.Pairwise (·.2 ≠ ·.2) := pairwise_width.imp fun hlt => Nat.ne_of_lt hlt
  have hnodup : (f.sized.map Prod.snd).Nodup := List.pairwise_map.mpr hne
  exact List.inj_on_of_nodup_map hnodup hs hr h

theorem widened_eq_some {widths : List (UInt8 × Nat)} (hwidths : widths.Pairwise (·.2 < ·.2))
    (h : widened widths n = some x) :
    ∃ s ∈ widths, n < Bytes.capacity s.2 ∧ x = s.1 :: Bytes.natBE s.2 n ∧
      ∀ r ∈ widths, n < Bytes.capacity r.2 → s.2 ≤ r.2 := by
  induction widths with
  | nil => cases h
  | cons s wider ih =>
    obtain ⟨hs, hwider⟩ := List.pairwise_cons.mp hwidths
    rw [widened] at h
    split at h
    case isTrue hroom =>
      cases h
      refine ⟨s, List.mem_cons_self .., hroom, rfl, fun r hr _ => ?_⟩
      rcases List.mem_cons.mp hr with rfl | hr
      · exact Nat.le_refl _
      · exact Nat.le_of_lt (hs r hr)
    case isFalse hfull =>
      obtain ⟨r, hr, hroom, hx, hleast⟩ := ih hwider h
      refine ⟨r, List.mem_cons_of_mem s hr, hroom, hx, List.forall_mem_cons.mpr ⟨?_, hleast⟩⟩
      exact fun hroom' => absurd hroom' hfull

theorem shortest_of_header? (h : f.header? n = some x) : f.Shortest n x := by
  unfold header? at h
  split at h
  case isTrue hfix =>
    cases h
    refine ⟨.fixed hfix, fun bs' h' => ?_⟩
    cases h' <;> simp
  case isFalse hfix =>
    obtain ⟨s, hs, hroom, rfl, hleast⟩ := widened_eq_some pairwise_width h
    refine ⟨.sized hs hroom, fun bs' h' => ?_⟩
    cases h' with
    | fixed hfix' => exact absurd hfix' hfix
    | sized hr hroom' => simpa using hleast _ hr hroom'

theorem Writes.eq_of_length (hx : f.Writes n x) (hy : f.Writes n y) (h : x.length = y.length) :
    x = y := by
  cases hx with
  | fixed =>
    cases hy with
    | fixed => rfl
    | sized hs => simp [Nat.ne_of_gt (width_pos hs)] at h
  | sized hs =>
    cases hy with
    | fixed => simp [Nat.ne_of_gt (width_pos hs)] at h
    | sized hr =>
      have hwidth := by simpa using h
      rw [eq_of_width hs hr hwidth]

theorem Shortest.unique (hx : f.Shortest n x) (hy : f.Shortest n y) : x = y :=
  hx.writes.eq_of_length hy.writes (Nat.le_antisymm (hx.least y hy.writes) (hy.least x hx.writes))

end Format

section Headers

open Format (header? widened shortest_of_header?)

variable {n : Nat}

theorem uint_shortest (n : UInt64) : Format.number.Shortest n.toNat (uint n) := by
  apply shortest_of_header?
  have hroom : n.toNat < Bytes.capacity 8 := n.toNat_lt
  simp only [header?, Format.number, widened, uint, if_pos hroom, apply_ite some]
  simp only [UInt64.lt_iff_toNat_lt, Nat.zero_add]
  rfl

theorem textHeader_shortest (h : n < sizeLimit) : Format.text.Shortest n (textHeader n) := by
  apply shortest_of_header?
  have hroom : n < Bytes.capacity 4 := h
  simp only [header?, Format.text, widened, textHeader, if_pos hroom, apply_ite some]
  rfl

theorem blobHeader_shortest (h : n < sizeLimit) : Format.blob.Shortest n (blobHeader n) := by
  apply shortest_of_header?
  have hroom : n < Bytes.capacity 4 := h
  simp only [header?, Format.blob, widened, blobHeader, if_pos hroom, apply_ite some]
  rfl

theorem arrayHeader_shortest (h : n < sizeLimit) : Format.array.Shortest n (arrayHeader n) := by
  apply shortest_of_header?
  have hroom : n < Bytes.capacity 4 := h
  simp only [header?, Format.array, widened, arrayHeader, if_pos hroom, apply_ite some]
  rfl

theorem mapHeader_shortest (h : n < sizeLimit) : Format.map.Shortest n (mapHeader n) := by
  apply shortest_of_header?
  have hroom : n < Bytes.capacity 4 := h
  simp only [header?, Format.map, widened, mapHeader, if_pos hroom, apply_ite some]
  rfl

end Headers

inductive Value where
  | number (n : UInt64)
  | text (s : String)
  | blob (bs : Bytes)
  | list (items : List Value)
  | map (entries : List (String × Value))

mutual

inductive Canonical : Value → Bytes → Prop
  | number {n : UInt64} {bs : Bytes} (h : Format.number.Shortest n.toNat bs) :
      Canonical (.number n) bs
  | text {s : String} {head : Bytes} (h : Format.text.Shortest (Text.utf8 s).length head) :
      Canonical (.text s) (head ++ Text.utf8 s)
  | blob {bs head : Bytes} (h : Format.blob.Shortest bs.length head) :
      Canonical (.blob bs) (head ++ bs)
  | list {items : List Value} {head body : Bytes} (h : Format.array.Shortest items.length head)
      (hitems : CanonicalItems items body) : Canonical (.list items) (head ++ body)
  | map {entries : List (String × Value)} {head body : Bytes}
      (h : Format.map.Shortest entries.length head)
      (hkeys : (entries.map fun e => Text.utf8 e.1).Pairwise (· < ·))
      (hentries : CanonicalEntries entries body) : Canonical (.map entries) (head ++ body)

inductive CanonicalItems : List Value → Bytes → Prop
  | nil : CanonicalItems [] []
  | cons {v : Value} {items : List Value} {bs rest : Bytes} (h : Canonical v bs)
      (hitems : CanonicalItems items rest) : CanonicalItems (v :: items) (bs ++ rest)

inductive CanonicalEntries : List (String × Value) → Bytes → Prop
  | nil : CanonicalEntries [] []
  | cons {name : String} {v : Value} {entries : List (String × Value)} {key bs rest : Bytes}
      (hkey : Canonical (.text name) key) (h : Canonical v bs)
      (hentries : CanonicalEntries entries rest) :
      CanonicalEntries ((name, v) :: entries) (key ++ bs ++ rest)

end

mutual

theorem Canonical.unique : ∀ (v : Value) {x y : Bytes}, Canonical v x → Canonical v y → x = y
  | .number _, _, _, .number hx, .number hy => hx.unique hy
  | .text _, _, _, .text hx, .text hy => by rw [hx.unique hy]
  | .blob _, _, _, .blob hx, .blob hy => by rw [hx.unique hy]
  | .list items, _, _, .list hx hxs, .list hy hys => by
    rw [hx.unique hy, CanonicalItems.unique items hxs hys]
  | .map entries, _, _, .map hx _ hxs, .map hy _ hys => by
    rw [hx.unique hy, CanonicalEntries.unique entries hxs hys]

theorem CanonicalItems.unique :
    ∀ (items : List Value) {x y : Bytes}, CanonicalItems items x → CanonicalItems items y → x = y
  | [], _, _, .nil, .nil => rfl
  | v :: items, _, _, .cons hx hxs, .cons hy hys => by
    rw [Canonical.unique v hx hy, CanonicalItems.unique items hxs hys]

theorem CanonicalEntries.unique : ∀ (entries : List (String × Value)) {x y : Bytes},
    CanonicalEntries entries x → CanonicalEntries entries y → x = y
  | [], _, _, .nil, .nil => rfl
  | (name, v) :: entries, _, _, .cons hkx hx hxs, .cons hky hy hys => by
    rw [Canonical.unique (.text name) hkx hky, Canonical.unique v hx hy,
      CanonicalEntries.unique entries hxs hys]

end

section Values

theorem text_canonical {s : String} (h : (Text.utf8 s).length < sizeLimit) :
    Canonical (.text s) (text s) := .text (textHeader_shortest h)

theorem blob_canonical {bs : Bytes} (h : bs.length < sizeLimit) : Canonical (.blob bs) (blob bs) :=
  .blob (blobHeader_shortest h)

theorem items_canonical {items : List Bytes} (h : ∀ bs ∈ items, bs.length < sizeLimit) :
    CanonicalItems (items.map .blob) (items.flatMap blob) := by
  induction items with
  | nil => exact .nil
  | cons bs items ih =>
    obtain ⟨hbs, hitems⟩ := List.forall_mem_cons.mp h
    exact .cons (blob_canonical hbs) (ih hitems)

theorem blobs_canonical {items : List Bytes} (hcount : items.length < sizeLimit)
    (h : ∀ bs ∈ items, bs.length < sizeLimit) :
    Canonical (.list (items.map .blob)) (blobs items) := by
  refine .list ?_ (items_canonical h)
  rw [List.length_map]
  exact arrayHeader_shortest hcount

variable {α : Type} {value : α → Value} {write : α → Bytes} {entries : List (String × α)}

theorem entries_canonical (hnames : ∀ e ∈ entries, (Text.utf8 e.1).length < sizeLimit)
    (h : ∀ e ∈ entries, Canonical (value e.2) (write e.2)) :
    CanonicalEntries (entries.map fun e => (e.1, value e.2))
      (entries.flatMap (entryBytes write)) := by
  induction entries with
  | nil => exact .nil
  | cons e entries ih =>
    obtain ⟨hname, hnames⟩ := List.forall_mem_cons.mp hnames
    obtain ⟨he, hentries⟩ := List.forall_mem_cons.mp h
    exact .cons (text_canonical hname) he (ih hnames hentries)

theorem record_canonical (hcount : entries.length < sizeLimit)
    (hkeys : (entries.map fun e => Text.utf8 e.1).Pairwise (· < ·))
    (hnames : ∀ e ∈ entries, (Text.utf8 e.1).length < sizeLimit)
    (h : ∀ e ∈ entries, Canonical (value e.2) (write e.2)) :
    Canonical (.map (entries.map fun e => (e.1, value e.2)))
      (record (entries.map fun e => (e.1, write e.2))) := by
  rw [record_map]
  refine .map ?_ ?_ (entries_canonical hnames h)
  · rw [List.length_map]
    exact mapHeader_shortest hcount
  · rw [List.map_map]
    exact hkeys

end Values

end ShieldedPool.Ledger.MessagePack
