import ShieldedPool.Ledger.MessagePack

namespace ShieldedPool.Ledger.MessagePack

def sizeLimit : Nat := 4294967296

section Headers

theorem takeBytes_append (bs rest : Bytes) :
    takeBytes bs.length (bs ++ rest) = some (bs, rest) := by
  unfold takeBytes
  rw [if_pos (by simp), List.take_left, List.drop_left]

theorem takeNat_natBE {w n : Nat} (h : n < Bytes.capacity w) (rest : Bytes) :
    takeNat w (Bytes.natBE w n ++ rest) = some (n, rest) := by
  have htake : takeBytes w (Bytes.natBE w n ++ rest) = some (Bytes.natBE w n, rest) := by
    simpa using takeBytes_append (Bytes.natBE w n) rest
  rw [takeNat, htake, Option.map_some]
  dsimp only
  rw [Bytes.valueBE_natBE, Nat.mod_eq_of_lt h]

theorem takeSized_natBE {w n : Nat} (mark : Nat → Marker) (h : n < Bytes.capacity w)
    (rest : Bytes) : takeSized w mark (Bytes.natBE w n ++ rest) = some (mark n, rest) := by
  rw [takeSized, takeNat_natBE h, Option.map_some]

theorem marker_fixNumber {b : UInt8} (h : b.toNat < 0x80) (rest : Bytes) :
    marker (b :: rest) = some (.number b.toNat, rest) := by
  simp only [marker]
  rw [if_pos h]

theorem marker_fixMap {n : Nat} (h : n < 16) (rest : Bytes) :
    marker (UInt8.ofNat (0x80 + n) :: rest) = some (.map n, rest) := by
  have hb : (UInt8.ofNat (0x80 + n)).toNat = 0x80 + n := by rw [UInt8.toNat_ofNat']; omega
  simp only [marker, hb]
  rw [if_neg (by omega), if_pos (by omega), Nat.add_sub_cancel_left]

theorem marker_fixArray {n : Nat} (h : n < 16) (rest : Bytes) :
    marker (UInt8.ofNat (0x90 + n) :: rest) = some (.array n, rest) := by
  have hb : (UInt8.ofNat (0x90 + n)).toNat = 0x90 + n := by rw [UInt8.toNat_ofNat']; omega
  simp only [marker, hb]
  rw [if_neg (by omega), if_neg (by omega), if_pos (by omega), Nat.add_sub_cancel_left]

theorem marker_fixText {n : Nat} (h : n < 32) (rest : Bytes) :
    marker (UInt8.ofNat (0xa0 + n) :: rest) = some (.text n, rest) := by
  have hb : (UInt8.ofNat (0xa0 + n)).toNat = 0xa0 + n := by rw [UInt8.toNat_ofNat']; omega
  simp only [marker, hb]
  rw [if_neg (by omega), if_neg (by omega), if_neg (by omega), if_pos (by omega),
    Nat.add_sub_cancel_left]

theorem marker_textHeader {n : Nat} (h : n < sizeLimit) (rest : Bytes) :
    marker (textHeader n ++ rest) = some (.text n, rest) := by
  unfold textHeader
  split
  case isTrue hfix => exact marker_fixText hfix rest
  case isFalse =>
    split
    case isTrue h1 => exact takeSized_natBE .text (w := 1) h1 rest
    case isFalse =>
      split
      case isTrue h2 => exact takeSized_natBE .text (w := 2) h2 rest
      case isFalse => exact takeSized_natBE .text (w := 4) h rest

theorem marker_blobHeader {n : Nat} (h : n < sizeLimit) (rest : Bytes) :
    marker (blobHeader n ++ rest) = some (.blob n, rest) := by
  unfold blobHeader
  split
  case isTrue h1 => exact takeSized_natBE .blob (w := 1) h1 rest
  case isFalse =>
    split
    case isTrue h2 => exact takeSized_natBE .blob (w := 2) h2 rest
    case isFalse => exact takeSized_natBE .blob (w := 4) h rest

theorem marker_arrayHeader {n : Nat} (h : n < sizeLimit) (rest : Bytes) :
    marker (arrayHeader n ++ rest) = some (.array n, rest) := by
  unfold arrayHeader
  split
  case isTrue hfix => exact marker_fixArray hfix rest
  case isFalse =>
    split
    case isTrue h2 => exact takeSized_natBE .array (w := 2) h2 rest
    case isFalse => exact takeSized_natBE .array (w := 4) h rest

theorem marker_mapHeader {n : Nat} (h : n < sizeLimit) (rest : Bytes) :
    marker (mapHeader n ++ rest) = some (.map n, rest) := by
  unfold mapHeader
  split
  case isTrue hfix => exact marker_fixMap hfix rest
  case isFalse =>
    split
    case isTrue h2 => exact takeSized_natBE .map (w := 2) h2 rest
    case isFalse => exact takeSized_natBE .map (w := 4) h rest

theorem length_mapHeader {n : Nat} (h : n < 16) : (mapHeader n).length = 1 := by
  rw [mapHeader, if_pos h]
  rfl

theorem marker_uint (n : UInt64) (rest : Bytes) :
    marker (uint n ++ rest) = some (.number n.toNat, rest) := by
  unfold uint
  split
  case isTrue hfix =>
    have hlt : n.toNat < 128 := hfix
    have hb : n.toUInt8.toNat = n.toNat := by rw [UInt64.toNat_toUInt8]; omega
    rw [← hb]
    exact marker_fixNumber (by omega) rest
  case isFalse =>
    split
    case isTrue h1 =>
      have hlt : n.toNat < 256 := h1
      have hbyte : [0xcc, n.toUInt8] = 0xcc :: Bytes.natBE 1 n.toNat := rfl
      rw [hbyte]
      exact takeSized_natBE .number (w := 1) hlt rest
    case isFalse =>
      split
      case isTrue h2 => exact takeSized_natBE .number (w := 2) (show n.toNat < 65536 from h2) rest
      case isFalse =>
        split
        case isTrue h4 =>
          exact takeSized_natBE .number (w := 4) (show n.toNat < 4294967296 from h4) rest
        case isFalse => exact takeSized_natBE .number (w := 8) n.toNat_lt rest

def Marker.Bounded : Marker → Prop
  | .text n | .blob n | .array n | .map n => n < sizeLimit
  | _ => True

theorem takeNat_lt {w n : Nat} {bs rest : Bytes} (h : takeNat w bs = some (n, rest)) :
    n < Bytes.capacity w := by
  unfold takeNat takeBytes at h
  split at h
  case isTrue hle =>
    cases h
    have := Bytes.valueBE_lt (bs.take w)
    rwa [List.length_take, Nat.min_eq_left hle] at this
  case isFalse => cases h

theorem takeSized_eq_some {w : Nat} {mark : Nat → Marker} {bs rest : Bytes} {m : Marker}
    (h : takeSized w mark bs = some (m, rest)) : ∃ n < Bytes.capacity w, m = mark n := by
  unfold takeSized at h
  obtain ⟨⟨n, rest'⟩, hn, heq⟩ := Option.map_eq_some_iff.mp h
  cases heq
  exact ⟨n, takeNat_lt hn, rfl⟩

theorem takeSigned_bounded {w : Nat} {bs rest : Bytes} {m : Marker}
    (h : takeSigned w bs = some (m, rest)) : m.Bounded := by
  unfold takeSigned at h
  split at h
  · cases h
  · split at h
    · cases h; trivial
    · cases h

theorem marker_bounded {bs rest : Bytes} {m : Marker} (h : marker bs = some (m, rest)) :
    m.Bounded := by
  have fixed {n : Nat} (hn : n < 256) : n < sizeLimit := Nat.lt_trans hn (by decide)
  cases bs with
  | nil => cases h
  | cons b bs =>
    have hb := b.toNat_lt
    simp only [marker] at h
    split at h
    · cases h; trivial
    · split at h
      · cases h; exact fixed (by omega)
      · split at h
        · cases h; exact fixed (by omega)
        · split at h
          · cases h; exact fixed (by omega)
          · -- One case for each leading byte from 0xc0 on.
            split at h
            all_goals first
              | exact takeSigned_bounded h
              | (obtain ⟨n, hn, rfl⟩ := takeSized_eq_some h
                 first
                  | exact Nat.lt_of_lt_of_le hn (by decide)
                  | trivial)
              | (cases h; done)
              | (cases h; trivial)

end Headers

section Values

variable {α β : Type}

def Recovers (item : Reader α) (write : α → Bytes) (x : α) : Prop :=
  ∀ rest, item (write x ++ rest) = some (x, rest)

def Yields (item : Reader α) (P : α → Prop) : Prop :=
  ∀ bs x rest, item bs = some (x, rest) → P x

theorem Recovers.append_inj {item : Reader α} {write : α → Bytes} {x y : α}
    (hx : Recovers item write x) (hy : Recovers item write y) {a b : Bytes}
    (h : write x ++ a = write y ++ b) : x = y ∧ a = b := by
  have hread := hx a
  rw [h, hy b] at hread
  obtain ⟨hsame, hrest⟩ := Prod.mk.inj (Option.some.inj hread)
  exact ⟨hsame.symm, hrest.symm⟩

theorem takeBytes_length {n : Nat} {bs x rest : Bytes} (h : takeBytes n bs = some (x, rest)) :
    x.length = n := by
  unfold takeBytes at h
  split at h
  case isTrue hle => cases h; simp [hle]
  case isFalse => cases h

theorem readMany_flatMap {item : Reader α} {write : α → Bytes} {xs : List α}
    (h : ∀ x ∈ xs, Recovers item write x) (rest : Bytes) :
    readMany item xs.length (xs.flatMap write ++ rest) = some (xs, rest) := by
  induction xs with
  | nil => rfl
  | cons x xs ih =>
    have hx := h x (List.mem_cons_self ..) (xs.flatMap write ++ rest)
    have hxs := ih fun y hy => h y (List.mem_cons_of_mem x hy)
    rw [List.length_cons, List.flatMap_cons, List.append_assoc, readMany, hx]
    dsimp only
    rw [hxs, Option.map_some]

theorem yields_readMany {item : Reader α} {P : α → Prop} (h : Yields item P) (n : Nat) :
    Yields (readMany item n) fun xs => xs.length = n ∧ ∀ x ∈ xs, P x := by
  induction n with
  | zero =>
    intro bs xs rest hxs
    cases hxs
    exact ⟨rfl, fun x hx => by cases hx⟩
  | succ n ih =>
    intro bs xs rest hxs
    rw [readMany] at hxs
    split at hxs
    case h_1 => cases hxs
    case h_2 x rest' hx =>
      obtain ⟨⟨ys, rest''⟩, hys, heq⟩ := Option.map_eq_some_iff.mp hxs
      cases heq
      obtain ⟨hlength, hall⟩ := ih rest' ys rest hys
      refine ⟨by rw [List.length_cons, hlength], fun y hy => ?_⟩
      rcases List.mem_cons.mp hy with rfl | hy
      · exact h bs y rest' hx
      · exact hall y hy

theorem readUInt_recovers (n : UInt64) : Recovers readUInt uint n := by
  intro rest
  rw [readUInt, readNat, marker_uint]
  dsimp only
  rw [Option.map_some, UInt64.ofNat_toNat]

theorem readText_recovers {s : String} (h : (Text.utf8 s).length < sizeLimit) :
    Recovers readText text s := by
  intro rest
  rw [readText, text]
  dsimp only
  rw [List.append_assoc, marker_textHeader h]
  dsimp only
  rw [takeBytes_append]
  dsimp only
  rw [Text.ofUtf8?_eq_some_iff.mpr rfl, Option.map_some]

theorem marker_blob {bs : Bytes} (h : bs.length < sizeLimit) (rest : Bytes) :
    marker (blob bs ++ rest) = some (.blob bs.length, bs ++ rest) := by
  rw [blob, List.append_assoc, marker_blobHeader h]

theorem readBlob_recovers {bs : Bytes} (h : bs.length < sizeLimit) : Recovers readBlob blob bs := by
  intro rest
  rw [readBlob, marker_blob h]
  exact takeBytes_append bs rest

theorem readBlobs_recovers {items : List Bytes} (h : items.length < sizeLimit)
    (hitems : ∀ bs ∈ items, bs.length < sizeLimit) : Recovers readBlobs blobs items := by
  intro rest
  rw [readBlobs, blobs, List.append_assoc, marker_arrayHeader h]
  exact readMany_flatMap (fun bs hbs => readBlob_recovers (hitems bs hbs)) rest

theorem readOptional_some {item : Reader α} {bs rest rest' : Bytes} {m : Marker} {x : α}
    (hm : marker bs = some (m, rest')) (hnil : m ≠ .nil) (h : item bs = some (x, rest)) :
    readOptional item bs = some (some x, rest) := by
  unfold readOptional
  rw [hm, h]
  cases m with
  | nil => exact absurd rfl hnil
  | _ => rfl

theorem yields_readText : Yields readText fun s => (Text.utf8 s).length < sizeLimit := by
  intro bs s rest h
  unfold readText at h
  split at h
  case h_1 n mid hm | h_2 n mid hm =>
    dsimp only at h
    cases htake : takeBytes n mid with
    | none => rw [htake] at h; cases h
    | some taken =>
      rw [htake] at h
      obtain ⟨s', hs', heq⟩ := Option.map_eq_some_iff.mp h
      cases heq
      rw [← Text.ofUtf8?_eq_some_iff.mp hs', takeBytes_length htake]
      exact marker_bounded hm
  case h_3 => cases h

theorem yields_readBlob : Yields readBlob fun bs => bs.length < sizeLimit := by
  intro bs x rest h
  unfold readBlob at h
  split at h
  case h_1 n rest' hm => rw [takeBytes_length h]; exact marker_bounded hm
  case h_2 n rest' hm => rw [takeBytes_length h]; exact marker_bounded hm
  case h_3 n rest' hm =>
    have hitem : Yields readByte fun _ => True := fun _ _ _ _ => trivial
    rw [(yields_readMany hitem n rest' x rest h).1]
    exact marker_bounded hm
  case h_4 => cases h

theorem yields_readBlobs :
    Yields readBlobs fun items =>
      items.length < sizeLimit ∧ ∀ bs ∈ items, bs.length < sizeLimit := by
  intro bs items rest h
  unfold readBlobs at h
  split at h
  case h_1 n rest' hm =>
    obtain ⟨hlength, hall⟩ := yields_readMany yields_readBlob n rest' items rest h
    exact ⟨hlength ▸ marker_bounded hm, hall⟩
  case h_2 =>
    cases h
    exact ⟨by decide, fun bs hbs => by cases hbs⟩
  case h_3 => cases h

theorem yields_readOptional {item : Reader α} {P : α → Prop} (h : Yields item P) :
    Yields (readOptional item) fun x => ∀ y, x = some y → P y := by
  intro bs x rest hx y hy
  subst hy
  unfold readOptional at hx
  split at hx
  case h_1 => cases hx
  case h_2 =>
    obtain ⟨⟨z, rest'⟩, hz, heq⟩ := Option.map_eq_some_iff.mp hx
    cases heq
    exact h bs y rest hz

end Values

section Records

variable {α : Type}

structure Reads (fields : Fields α) (write : α → Bytes) (entry : String × α) : Prop where
  name : (Text.utf8 entry.1).length < sizeLimit
  value : ∃ reader, fields.find? (·.1 == entry.1) = some (entry.1, reader) ∧
    Recovers reader write entry.2

theorem find?_name {fields : Fields α} (h : (fields.map Prod.fst).Nodup) {f : String × Reader α}
    (hf : f ∈ fields) : fields.find? (·.1 == f.1) = some f := by
  induction fields with
  | nil => cases hf
  | cons g fields ih =>
    obtain ⟨hg, hfields⟩ := List.nodup_cons.mp h
    rcases List.mem_cons.mp hf with rfl | hf
    · exact List.find?_cons_of_pos (beq_self_eq_true f.1)
    · have hne : ¬ (g.1 == f.1) = true := fun heq =>
        hg (eq_of_beq heq ▸ List.mem_map_of_mem hf)
      rw [List.find?_cons_of_neg (p := fun x : String × Reader α => x.1 == f.1) hne]
      exact ih hfields hf

def entryBytes (write : α → Bytes) (entry : String × α) : Bytes := text entry.1 ++ write entry.2

theorem entryBytes_append_inj {item : Reader α} {write : α → Bytes} {x y : α}
    (hx : Recovers item write x) (hy : Recovers item write y) (name : String) {a b : Bytes}
    (h : entryBytes write (name, x) ++ a = entryBytes write (name, y) ++ b) : x = y ∧ a = b := by
  have htext : text name ++ (write x ++ a) = text name ++ (write y ++ b) := by
    rw [← List.append_assoc, ← List.append_assoc]
    exact h
  exact hx.append_inj hy (List.append_cancel_left htext)

theorem entryBytes_name_inj {write : α → Bytes} {name other : String} {x y : α}
    (hname : (Text.utf8 name).length < sizeLimit) (hother : (Text.utf8 other).length < sizeLimit)
    {a b : Bytes} (h : entryBytes write (name, x) ++ a = entryBytes write (other, y) ++ b) :
    name = other := by
  rw [entryBytes, entryBytes, List.append_assoc, List.append_assoc] at h
  exact ((readText_recovers hname).append_inj (readText_recovers hother) h).1

theorem readKey_text {fields : Fields α} {name : String} {f : String × Reader α}
    (hname : (Text.utf8 name).length < sizeLimit) (h : fields.find? (·.1 == name) = some f)
    (rest : Bytes) : readKey fields (text name ++ rest) = some (f, rest) := by
  have hmark : marker (text name ++ rest) =
      some (.text (Text.utf8 name).length, Text.utf8 name ++ rest) := by
    rw [text, List.append_assoc, marker_textHeader hname]
  unfold readKey
  rw [hmark]
  dsimp only
  rw [readText_recovers hname rest]
  dsimp only
  rw [h, Option.map_some]

theorem marker_record {fields : List (String × Bytes)} (h : fields.length < sizeLimit)
    (rest : Bytes) :
    marker (record fields ++ rest) =
      some (.map fields.length, (fields.flatMap fun f => text f.1 ++ f.2) ++ rest) := by
  rw [record, List.append_assoc, marker_mapHeader h]

theorem readEntries_entryBytes {fields : Fields α} {write : α → Bytes}
    {entries : List (String × α)} (h : ∀ e ∈ entries, Reads fields write e)
    (found : List (String × α)) (hnames : ((found ++ entries).map Prod.fst).Nodup)
    (rest : Bytes) :
    readEntries fields entries.length found (entries.flatMap (entryBytes write) ++ rest) =
      some (found.reverse ++ entries, rest) := by
  induction entries generalizing found with
  | nil => simp [readEntries]
  | cons e entries ih =>
    obtain ⟨hname, reader, hfind, hreader⟩ := h e (List.mem_cons_self ..)
    have hfresh : found.any (·.1 == e.1) = false := by
      rw [List.map_append, List.nodup_append] at hnames
      refine List.any_eq_false.mpr fun other hother heq => ?_
      exact hnames.2.2 other.1 (List.mem_map_of_mem hother) e.1 (by simp) (eq_of_beq heq)
    have hnames' : (((e :: found) ++ entries).map Prod.fst).Nodup := by
      refine List.Perm.nodup_iff ?_ |>.mp hnames
      exact (List.perm_middle).map Prod.fst
    have hrest := ih (fun x hx => h x (List.mem_cons_of_mem e hx)) (e :: found) hnames'
    rw [List.length_cons, List.flatMap_cons, entryBytes, List.append_assoc, List.append_assoc,
      readEntries, readKey_text hname hfind]
    dsimp only
    rw [hfresh, if_neg Bool.false_ne_true, hreader]
    dsimp only
    rw [hrest, List.reverse_cons, List.append_assoc, List.singleton_append]

theorem record_map (write : α → Bytes) (entries : List (String × α)) :
    record (entries.map fun e => (e.1, write e.2)) =
      mapHeader entries.length ++ entries.flatMap (entryBytes write) := by
  rw [record, List.length_map, List.flatMap_map]
  rfl

theorem readRecord_record {fields : Fields α} {write : α → Bytes} {entries : List (String × α)}
    (h : ∀ e ∈ entries, Reads fields write e) (hsize : entries.length < sizeLimit)
    (hnames : (entries.map Prod.fst).Nodup) :
    Recovers (readRecord fields) (fun es => record (es.map fun e => (e.1, write e.2))) entries := by
  intro rest
  dsimp only
  rw [record_map, List.append_assoc, readRecord, marker_mapHeader hsize]
  exact readEntries_entryBytes h [] hnames rest

theorem readKey_mem {fields : Fields α} {bs rest : Bytes} {f : String × Reader α}
    (h : readKey fields bs = some (f, rest)) : f ∈ fields := by
  unfold readKey at h
  split at h
  case h_1 i rest' =>
    obtain ⟨f', hf', heq⟩ := Option.map_eq_some_iff.mp h
    cases heq
    exact List.mem_of_getElem? hf'
  case h_2 =>
    split at h
    case h_1 => cases h
    case h_2 =>
      obtain ⟨f', hf', heq⟩ := Option.map_eq_some_iff.mp h
      cases heq
      exact List.mem_of_find?_eq_some hf'

variable {fields : Fields α} {P : α → Prop}

theorem of_lookup {entries : List (String × α)} (h : ∀ e ∈ entries, P e.2) {name : String} {x : α}
    (hx : entries.lookup name = some x) : P x := by
  obtain ⟨before, after, hentries, -⟩ := List.lookup_eq_some_iff.mp hx
  exact h (name, x) (hentries ▸ List.mem_append_right before (List.mem_cons_self ..))

theorem yields_readEntries (h : ∀ f ∈ fields, Yields f.2 P) (n : Nat)
    {found : List (String × α)} (hfound : ∀ e ∈ found, P e.2) :
    Yields (readEntries fields n found) fun entries => ∀ e ∈ entries, P e.2 := by
  induction n generalizing found with
  | zero =>
    intro bs entries rest hentries e he
    cases hentries
    exact hfound e (List.mem_reverse.mp he)
  | succ n ih =>
    intro bs entries rest hentries
    rw [readEntries] at hentries
    split at hentries
    case h_1 => cases hentries
    case h_2 name value rest' hkey =>
      split at hentries
      case isTrue => cases hentries
      case isFalse =>
        split at hentries
        case h_1 => cases hentries
        case h_2 x rest'' hx =>
          refine ih (fun e he => ?_) rest'' entries rest hentries
          rcases List.mem_cons.mp he with rfl | he
          · exact h (name, value) (readKey_mem hkey) rest' x rest'' hx
          · exact hfound e he

theorem yields_readPlaces (h : ∀ f ∈ fields, Yields f.2 P) (n : Nat) :
    Yields (readPlaces fields n) fun entries => ∀ e ∈ entries, P e.2 := by
  induction fields generalizing n with
  | nil =>
    intro bs entries rest hentries
    cases n with
    | zero => cases hentries; exact fun e he => by cases he
    | succ n => cases hentries
  | cons f fields ih =>
    intro bs entries rest hentries
    cases n with
    | zero => cases hentries; exact fun e he => by cases he
    | succ n =>
      rw [readPlaces] at hentries
      split at hentries
      case h_1 => cases hentries
      case h_2 x rest' hx =>
        obtain ⟨⟨others, rest''⟩, hothers, heq⟩ := Option.map_eq_some_iff.mp hentries
        cases heq
        intro e he
        rcases List.mem_cons.mp he with rfl | he
        · exact h f (List.mem_cons_self ..) bs x rest' hx
        · exact ih (fun g hg => h g (List.mem_cons_of_mem f hg)) n rest' others rest hothers e he

theorem yields_readRecord (h : ∀ f ∈ fields, Yields f.2 P) :
    Yields (readRecord fields) fun entries => ∀ e ∈ entries, P e.2 := by
  intro bs entries rest hentries
  unfold readRecord at hentries
  split at hentries
  case h_1 n rest' _ => exact yields_readEntries h n (fun e he => by cases he) rest' _ _ hentries
  case h_2 n rest' _ => exact yields_readPlaces h n rest' _ _ hentries
  case h_3 => cases hentries

end Records

end ShieldedPool.Ledger.MessagePack
