import ShieldedPool.Ledger.Transaction
import ShieldedPool.Proofs.Ledger.MessagePack
import ShieldedPool.Proofs.Result

namespace ShieldedPool

namespace Block

variable {n : Nat}

theorem isZero_iff (a : Block n) : a.isZero = true ↔ a = zero n := by
  constructor
  · intro h
    have hall : ∀ b ∈ a.bytes, b = 0 := fun b hb => by
      simpa using List.all_eq_true.mp h b hb
    apply eq_of_bytes_eq
    change a.bytes = List.replicate n 0
    exact List.eq_replicate_iff.mpr ⟨a.length_eq, hall⟩
  · rintro rfl
    simp [isZero, zero, fill]

end Block

namespace Ledger

open MessagePack (Recovers Yields Reads sizeLimit)

def GroupId.zero : GroupId := ⟨Block.zero 32⟩

namespace FieldValue

def Fits : FieldValue → Prop
  | .number _ => True
  | .text s => (Text.utf8 s).length < sizeLimit
  | .blob bs => bs.length < sizeLimit
  | .blobs items => items.length < sizeLimit ∧ ∀ bs ∈ items, bs.length < sizeLimit

@[simp] theorem fits_number (n : UInt64) : (number n).Fits := trivial

@[simp] theorem fits_text (s : String) : (text s).Fits ↔ (Text.utf8 s).length < sizeLimit := .rfl

@[simp] theorem fits_blob (bs : Bytes) : (blob bs).Fits ↔ bs.length < sizeLimit := .rfl

@[simp] theorem fits_blobs (items : List Bytes) :
    (blobs items).Fits ↔ items.length < sizeLimit ∧ ∀ bs ∈ items, bs.length < sizeLimit := .rfl

def reader : FieldValue → MessagePack.Reader FieldValue
  | .number _ => Transaction.readNumber
  | .text _ => Transaction.readTextField
  | .blob _ => Transaction.readBlobField
  | .blobs _ => Transaction.readBlobsField

theorem reader_recovers {v : FieldValue} (h : v.Fits) : Recovers v.reader write v := by
  intro rest
  cases v with
  | number n => simp [reader, Transaction.readNumber, write, MessagePack.readUInt_recovers n rest]
  | text s => simp [reader, Transaction.readTextField, write, MessagePack.readText_recovers h rest]
  | blob bs => simp [reader, Transaction.readBlobField, write, MessagePack.readBlob_recovers h rest]
  | blobs items =>
    simp [reader, Transaction.readBlobsField, write, MessagePack.readBlobs_recovers h.1 h.2 rest]

end FieldValue

namespace Transaction

structure Fits (t : Transaction) : Prop where
  genesisId : (Text.utf8 t.genesisId).length < sizeLimit
  note : t.note.length < sizeLimit
  call : ∀ appId args accounts, t.kind = .appCall appId args accounts →
    args.length < sizeLimit ∧ (∀ bs ∈ args, bs.length < sizeLimit) ∧ accounts.length < sizeLimit

theorem toKey_bytes (field : String) (w : Word) : toKey field w.bytes = .ok w := by
  have hne : w.bytes.isEmpty = false := by
    rw [List.isEmpty_eq_false_iff, ← List.length_pos_iff, w.length_eq]
    decide
  unfold toKey
  rw [hne, if_neg Bool.false_ne_true, Block.ofBytes?_eq_some_iff.mpr rfl]

section Fields

variable (t : Transaction)

theorem readers_allFields : t.allFields.map (fun f => (f.1, f.2.reader)) = fieldReaders := by
  have hgroup : (groupField t.group).reader = readBlobField := by cases t.group <;> rfl
  unfold allFields
  cases t.kind <;> simp only [List.map_cons, List.map_nil, hgroup] <;> rfl

theorem nodup_names_fieldReaders : (fieldReaders.map Prod.fst).Nodup := by decide

theorem nodup_names_allFields : (t.allFields.map Prod.fst).Nodup := by
  have h := nodup_names_fieldReaders
  rwa [← readers_allFields t, List.map_map] at h

theorem utf8_name_lt : ∀ f ∈ fieldReaders, (Text.utf8 f.1).length < sizeLimit := by decide

theorem lookup_filter {fs : FieldList} (h : (fs.map Prod.fst).Nodup) (keep : FieldValue → Bool)
    (name : String) :
    (fs.filter fun f => keep f.2).lookup name = (fs.lookup name).filter keep := by
  induction fs with
  | nil => rfl
  | cons f fs ih =>
    obtain ⟨key, v⟩ := f
    obtain ⟨hkey, hfs⟩ := List.nodup_cons.mp h
    have hrest := ih hfs
    rw [List.lookup_cons, List.filter_cons]
    cases hname : name == key with
    | true =>
      have hnone : fs.lookup name = none := by
        rw [eq_of_beq hname]
        refine List.lookup_eq_none_iff.mpr fun g hg => ?_
        exact bne_iff_ne.mpr fun heq => hkey (List.mem_map.mpr ⟨g, hg, heq.symm⟩)
      rw [hnone] at hrest
      cases hkeep : keep v <;> simp [hkeep, hname, hrest, List.lookup_cons, Option.filter]
    | false => cases keep v <;> simp [hname, hrest, List.lookup_cons]

theorem lookup_fields (name : String) :
    t.fields.lookup name = (t.allFields.lookup name).filter fun v => !v.isEmpty :=
  lookup_filter (nodup_names_allFields t) (fun v => !v.isEmpty) name

theorem size_pos : 0 < sizeLimit := by decide

theorem key_lt (w : Word) : w.bytes.length < sizeLimit := by
  rw [w.length_eq]
  decide

theorem keyField_fits (w : Word) : (keyField w).Fits := by
  unfold keyField
  split
  · exact size_pos
  · exact key_lt w

theorem groupField_fits (g : Option GroupId) : (groupField g).Fits := by
  cases g with
  | none => exact size_pos
  | some g => exact keyField_fits g.id

variable {t}

theorem allFields_fit (h : t.Fits) : ∀ f ∈ t.allFields, f.2.Fits := by
  have hpay : (Text.utf8 "pay").length < sizeLimit := by decide
  have happl : (Text.utf8 "appl").length < sizeLimit := by decide
  unfold allFields
  cases hkind : t.kind with
  | payment receiver amount =>
    simp [keyField_fits, groupField_fits, h.genesisId, h.note, size_pos, hpay]
  | appCall appId args accounts =>
    obtain ⟨hargs, hall, haccounts⟩ := h.call appId args accounts hkind
    have hkeys : ∀ a ∈ accounts, a.key.bytes.length < sizeLimit := fun a _ => key_lt a.key
    simp [keyField_fits, groupField_fits, h.genesisId, h.note, size_pos, happl, hargs, haccounts]
    exact ⟨hall, hkeys⟩

theorem fields_read (h : t.Fits) : ∀ f ∈ t.fields, Reads fieldReaders FieldValue.write f := by
  intro f hf
  have hmem : f ∈ t.allFields := (List.mem_filter.mp hf).1
  have hreader : (f.1, f.2.reader) ∈ fieldReaders := by
    rw [← readers_allFields t]
    exact List.mem_map_of_mem hmem
  exact ⟨utf8_name_lt _ hreader, f.2.reader,
    MessagePack.find?_name nodup_names_fieldReaders hreader,
    FieldValue.reader_recovers (allFields_fit h f hmem)⟩

theorem length_fields_lt (t : Transaction) : t.fields.length < 16 := by
  have hle : t.fields.length ≤ t.allFields.length := List.length_filter_le _ _
  have hall : t.allFields.length = fieldReaders.length := by
    rw [← readers_allFields t, List.length_map]
  rw [hall] at hle
  exact Nat.lt_of_le_of_lt hle (by decide)

theorem readFields_encode (h : t.Fits) (rest : Bytes) :
    readFields (t.encode ++ rest) = some (t.fields, rest) := by
  have hnames : (t.fields.map Prod.fst).Nodup :=
    (List.filter_sublist.map Prod.fst).nodup (nodup_names_allFields t)
  have hcount : t.fields.length < sizeLimit := Nat.lt_trans t.length_fields_lt (by decide)
  have hread := MessagePack.readRecord_record (fields_read h) hcount hnames rest
  have htype : (t.fields.lookup "type").isSome = true := by
    rw [lookup_fields]
    unfold allFields
    cases t.kind <;> rfl
  unfold readFields encode
  dsimp only at hread
  rw [hread]
  dsimp only
  rw [if_pos htype]

theorem lookup_fields_cases (name : String) :
    t.fields.lookup name = t.allFields.lookup name ∨
      ∃ v, v.isEmpty = true ∧ t.fields.lookup name = none ∧ t.allFields.lookup name = some v := by
  rw [lookup_fields]
  cases t.allFields.lookup name with
  | none => exact .inl rfl
  | some v =>
    cases hv : v.isEmpty with
    | true => exact .inr ⟨v, hv, by simp [Option.filter, hv], rfl⟩
    | false => exact .inl (by simp [Option.filter, hv])

theorem values_fields (name : String) :
    number t.fields name = number t.allFields name ∧
      text t.fields name = text t.allFields name ∧
      blob t.fields name = blob t.allFields name ∧
      blobs t.fields name = blobs t.allFields name := by
  unfold number text blob blobs
  rcases t.lookup_fields_cases name with hsame | ⟨v, hv, hnone, hsome⟩
  · rw [hsame]
    exact ⟨rfl, rfl, rfl, rfl⟩
  · rw [hnone, hsome]
    cases v <;> simp_all [FieldValue.isEmpty]

theorem number_fields (name : String) : number t.fields name = number t.allFields name :=
  (t.values_fields name).1

theorem text_fields (name : String) : text t.fields name = text t.allFields name :=
  (t.values_fields name).2.1

theorem blob_fields (name : String) : blob t.fields name = blob t.allFields name :=
  (t.values_fields name).2.2.1

theorem blobs_fields (name : String) : blobs t.fields name = blobs t.allFields name :=
  (t.values_fields name).2.2.2

end Fields

section Values

theorem toKey_keyField (field : String) (w : Word) :
    toKey field (if w.isZero then [] else w.bytes) = .ok w := by
  split
  case isTrue hzero => rw [(Block.isZero_iff w).mp hzero]; rfl
  case isFalse => exact toKey_bytes field w

theorem toKeys_bytes (field : String) (as : List Address) :
    toKeys field (as.map (·.key.bytes)) = .ok (as.map (·.key)) := by
  induction as with
  | nil => rfl
  | cons a as ih =>
    rw [List.map_cons, toKeys, toKey_bytes, ih]
    rfl

theorem kindOfFields_fields (t : Transaction) : kindOfFields t.fields = .ok t.kind := by
  unfold kindOfFields
  rw [text_fields, number_fields, number_fields, blob_fields, blobs_fields, blobs_fields]
  unfold allFields
  cases t.kind with
  | payment receiver amount =>
    change (do
      let key ← toKey "rcv" (if receiver.key.isZero then [] else receiver.key.bytes)
      return TxnKind.payment ⟨key⟩ amount) = _
    rw [toKey_keyField]
    rfl
  | appCall appId args accounts =>
    change (do
      let keys ← toKeys "apat" (accounts.map fun a : Address => a.key.bytes)
      return TxnKind.appCall appId args (keys.map Address.mk)) = _
    rw [toKeys_bytes]
    change Except.ok (TxnKind.appCall appId args ((accounts.map Address.key).map Address.mk)) = _
    rw [List.map_map]
    exact congrArg (fun as => Except.ok (TxnKind.appCall appId args as)) (List.map_id accounts)

theorem groupOfFields_fields {t : Transaction} (h : t.group ≠ some .zero) :
    groupOfFields t.fields = .ok t.group := by
  have hlookup : t.allFields.lookup "grp" = some (groupField t.group) := by
    unfold allFields
    cases t.kind <;> rfl
  unfold groupOfFields
  rw [blob_fields, blob, hlookup]
  cases hgroup : t.group with
  | none => rfl
  | some g =>
    have hzero : g.id.isZero = false := by
      refine Bool.eq_false_iff.mpr fun hzero => h ?_
      rw [hgroup]
      exact congrArg (fun id => some (GroupId.mk id)) ((Block.isZero_iff g.id).mp hzero)
    have hall : g.id.bytes.all (· == 0) = false := hzero
    simp only [groupField, keyField, hzero, hall, Bool.false_eq_true, if_false, toKey_bytes]
    rfl

theorem ofFields_fields {t : Transaction} (h : t.group ≠ some .zero) :
    ofFields t.fields = .ok t := by
  have hsender : toKey "snd" (blob t.fields "snd") = .ok t.sender.key := by
    rw [blob_fields, ← toKey_keyField "snd" t.sender.key]
    unfold allFields
    cases t.kind <;> rfl
  have hgenesis : toKey "gh" (blob t.fields "gh") = .ok t.genesisHash := by
    rw [blob_fields, ← toKey_keyField "gh" t.genesisHash]
    unfold allFields
    cases t.kind <;> rfl
  unfold ofFields
  rw [kindOfFields_fields, groupOfFields_fields h, hsender, hgenesis]
  simp only [number_fields, text_fields, blob_fields]
  unfold allFields
  obtain ⟨sender, fee, firstValid, lastValid, genesisId, genesisHash, group, note, kind⟩ := t
  cases kind <;> rfl

structure Readable (t : Transaction) : Prop extends t.Fits where
  group : t.group ≠ some .zero

theorem decode_encode {t : Transaction} (h : t.Readable) : decode t.encode = .ok t := by
  have hread := readFields_encode h.toFits []
  rw [List.append_nil] at hread
  unfold decode
  rw [hread]
  dsimp only
  rw [ofFields_fields h.group]
  exact if_pos rfl

end Values

section Readers

theorem fieldReaders_yield : ∀ f ∈ fieldReaders, Yields f.2 FieldValue.Fits := by
  have hnumber : Yields readNumber FieldValue.Fits := by
    intro bs v rest h
    obtain ⟨x, -, heq⟩ := Option.map_eq_some_iff.mp h
    cases heq
    trivial
  have htext : Yields readTextField FieldValue.Fits := by
    intro bs v rest h
    obtain ⟨⟨s, rest'⟩, hs, heq⟩ := Option.map_eq_some_iff.mp h
    cases heq
    exact MessagePack.yields_readText bs s rest hs
  have hblob : Yields readBlobField FieldValue.Fits := by
    intro bs v rest h
    obtain ⟨⟨x, rest'⟩, hx, heq⟩ := Option.map_eq_some_iff.mp h
    cases heq
    exact MessagePack.yields_readBlob bs x rest hx
  have hblobs : Yields readBlobsField FieldValue.Fits := by
    intro bs v rest h
    obtain ⟨⟨items, rest'⟩, hitems, heq⟩ := Option.map_eq_some_iff.mp h
    cases heq
    exact MessagePack.yields_readBlobs bs items rest hitems
  simp [fieldReaders, hnumber, htext, hblob, hblobs]

theorem yields_readFields : Yields readFields fun fs => ∀ f ∈ fs, f.2.Fits := by
  intro bs fs rest h
  unfold readFields at h
  split at h
  case h_1 fs' rest' hread =>
    split at h
    case isTrue => cases h; exact MessagePack.yields_readRecord fieldReaders_yield bs fs rest hread
    case isFalse => cases h
  case h_2 => cases h

variable {fs : FieldList}

theorem text_lt (h : ∀ f ∈ fs, f.2.Fits) (name : String) :
    (Text.utf8 (text fs name)).length < sizeLimit := by
  unfold text
  split
  case h_1 s hs => exact MessagePack.of_lookup h hs
  case h_2 => decide

theorem blob_lt (h : ∀ f ∈ fs, f.2.Fits) (name : String) : (blob fs name).length < sizeLimit := by
  unfold blob
  split
  case h_1 bs hbs => exact MessagePack.of_lookup h hbs
  case h_2 => exact size_pos

theorem blobs_lt (h : ∀ f ∈ fs, f.2.Fits) (name : String) :
    (blobs fs name).length < sizeLimit ∧ ∀ bs ∈ blobs fs name, bs.length < sizeLimit := by
  unfold blobs
  split
  case h_1 items hitems => exact MessagePack.of_lookup h hitems
  case h_2 => exact ⟨size_pos, fun bs hbs => by cases hbs⟩

theorem bytes_of_toKey {field : String} {bs : Bytes} {w : Word} (h : toKey field bs = .ok w)
    (hne : bs ≠ []) : bs = w.bytes := by
  unfold toKey at h
  split at h
  case isTrue hempty => exact absurd (List.isEmpty_iff.mp hempty) hne
  case isFalse =>
    split at h
    case h_1 => cases h
    case h_2 w' hw => cases h; exact Block.ofBytes?_eq_some_iff.mp hw

theorem length_of_toKeys {field : String} {items : List Bytes} {ws : List Word}
    (h : toKeys field items = .ok ws) : ws.length = items.length := by
  induction items generalizing ws with
  | nil => cases h; rfl
  | cons bs items ih =>
    rw [toKeys] at h
    obtain ⟨w, -, h⟩ := bind_ok h
    obtain ⟨others, hothers, h⟩ := bind_ok h
    cases h
    rw [List.length_cons, List.length_cons, ih hothers]

theorem kindOfFields_appCall {appId : UInt64} {args : List Bytes} {accounts : List Address}
    (h : kindOfFields fs = .ok (.appCall appId args accounts)) :
    args = blobs fs "apaa" ∧ accounts.length = (blobs fs "apat").length := by
  unfold kindOfFields at h
  split at h
  · obtain ⟨receiver, -, h⟩ := bind_ok h
    cases h
  · obtain ⟨ws, hws, h⟩ := bind_ok h
    cases h
    exact ⟨rfl, by rw [List.length_map, length_of_toKeys hws]⟩
  · cases h

theorem groupOfFields_ne_zero {g : Option GroupId} (h : groupOfFields fs = .ok g) :
    g ≠ some .zero := by
  unfold groupOfFields at h
  dsimp only at h
  split at h
  case isTrue => cases h; simp
  case isFalse hall =>
    obtain ⟨id, hid, h⟩ := bind_ok h
    cases h
    intro hzero
    cases hzero
    have hne : blob fs "grp" ≠ [] := fun hempty => hall (by rw [hempty]; rfl)
    rw [bytes_of_toKey hid hne] at hall
    exact hall ((Block.isZero_iff _).mpr rfl)

theorem ofFields_readable (hfs : ∀ f ∈ fs, f.2.Fits) {t : Transaction}
    (h : ofFields fs = .ok t) : t.Readable := by
  unfold ofFields at h
  obtain ⟨kind, hkind, h⟩ := bind_ok h
  obtain ⟨group, hgroup, h⟩ := bind_ok h
  obtain ⟨sender, -, h⟩ := bind_ok h
  obtain ⟨genesisHash, -, h⟩ := bind_ok h
  cases h
  refine ⟨⟨text_lt hfs "gen", blob_lt hfs "note", ?_⟩, groupOfFields_ne_zero hgroup⟩
  rintro appId args accounts rfl
  obtain ⟨rfl, hlength⟩ := kindOfFields_appCall hkind
  obtain ⟨hcount, hall⟩ := blobs_lt hfs "apaa"
  exact ⟨hcount, hall, hlength ▸ (blobs_lt hfs "apat").1⟩

end Readers

theorem decode_eq_ok_iff {bs : Bytes} {t : Transaction} :
    decode bs = .ok t ↔ bs = t.encode ∧ t.Readable := by
  constructor
  · intro h
    unfold decode at h
    split at h
    case h_1 => cases h
    case h_2 fs rest hread =>
      obtain ⟨t', hfields, h⟩ := bind_ok h
      split at h
      case isTrue hcanonical =>
        cases h
        exact ⟨hcanonical.symm, ofFields_readable (yields_readFields bs fs rest hread) hfields⟩
      case isFalse => cases h
  · rintro ⟨rfl, h⟩
    exact decode_encode h

section Entries

open MessagePack (entryBytes)

variable {t u : Transaction}

theorem entries_append_inj {x y : Bytes} (h : t.encode ++ x = u.encode ++ y) :
    t.fields.flatMap (entryBytes FieldValue.write) ++ x =
      u.fields.flatMap (entryBytes FieldValue.write) ++ y := by
  rw [encode, encode, MessagePack.record_map, MessagePack.record_map, List.append_assoc,
    List.append_assoc] at h
  have hheader : (MessagePack.mapHeader t.fields.length).length =
      (MessagePack.mapHeader u.fields.length).length := by
    rw [MessagePack.length_mapHeader t.length_fields_lt,
      MessagePack.length_mapHeader u.length_fields_lt]
  exact (List.append_inj h hheader).2

theorem entries_cons_append_inj {f g : String × FieldValue} {fs gs : FieldList}
    (ht : t.fields = f :: fs) (hu : u.fields = g :: gs) {x y : Bytes}
    (h : t.encode ++ x = u.encode ++ y) :
    entryBytes FieldValue.write f ++ (fs.flatMap (entryBytes FieldValue.write) ++ x) =
      entryBytes FieldValue.write g ++ (gs.flatMap (entryBytes FieldValue.write) ++ y) := by
  have hentries := entries_append_inj h
  rwa [ht, hu, List.flatMap_cons, List.flatMap_cons, List.append_assoc, List.append_assoc]
    at hentries

theorem filter_cons_of_empty {f : String × FieldValue} (h : f.2.isEmpty = true) (fs : FieldList) :
    ((f :: fs).filter fun f => !f.2.isEmpty) = fs.filter fun f => !f.2.isEmpty := by
  simp [h]

theorem filter_cons_of_filled {f : String × FieldValue} (h : f.2.isEmpty = false) (fs : FieldList) :
    ((f :: fs).filter fun f => !f.2.isEmpty) = f :: fs.filter fun f => !f.2.isEmpty := by
  simp [h]

theorem fields_payment {receiver : Address} {amount : UInt64}
    (h : t.kind = .payment receiver amount) (hamount : amount ≠ 0) :
    ∃ others, t.fields = ("amt", .number amount) :: others := by
  obtain ⟨rest, hall⟩ : ∃ rest, t.allFields = ("amt", .number amount) :: rest := by
    rw [allFields, h]
    exact ⟨_, rfl⟩
  have hamt : (FieldValue.number amount).isEmpty = false := by simp [FieldValue.isEmpty, hamount]
  exact ⟨_, by rw [fields, hall, filter_cons_of_filled hamt]⟩

theorem fields_appCall {appId : UInt64} {args : List Bytes} {accounts : List Address}
    (h : t.kind = .appCall appId args accounts) (hargs : args ≠ []) :
    ∃ others, t.fields = ("apaa", .blobs args) :: others ∧ (accounts ≠ [] →
      ∃ more, others = ("apat", .blobs (accounts.map (·.key.bytes))) :: more) := by
  obtain ⟨rest, hall⟩ : ∃ rest, t.allFields = ("amt", .number 0) :: ("apaa", .blobs args) ::
      ("apat", .blobs (accounts.map (·.key.bytes))) :: rest := by
    rw [allFields, h]
    exact ⟨_, rfl⟩
  have hapaa : (FieldValue.blobs args).isEmpty = false := by simp [FieldValue.isEmpty, hargs]
  refine ⟨_, by rw [fields, hall, filter_cons_of_empty rfl, filter_cons_of_filled hapaa], ?_⟩
  intro haccounts
  have hapat : (FieldValue.blobs (accounts.map (·.key.bytes))).isEmpty = false := by
    simp [FieldValue.isEmpty, haccounts]
  exact ⟨_, filter_cons_of_filled hapat rest⟩

end Entries

theorem encode_append_inj {t u : Transaction} (ht : t.Readable) (hu : u.Readable) {x y : Bytes}
    (h : t.encode ++ x = u.encode ++ y) : t = u ∧ x = y := by
  have hread {v : Transaction} (hv : v.Readable) : Recovers readFields
      (fun fs => MessagePack.record (fs.map fun f => (f.1, f.2.write))) v.fields :=
    readFields_encode hv.toFits
  obtain ⟨hfields, hrest⟩ := (hread ht).append_inj (hread hu) h
  have hsame := ofFields_fields ht.group
  rw [hfields, ofFields_fields hu.group] at hsame
  exact ⟨(Except.ok.inj hsame).symm, hrest⟩

theorem decode_append {bs x : Bytes} {t u : Transaction} (ht : decode bs = .ok t)
    (hu : decode (bs ++ x) = .ok u) : x = [] := by
  obtain ⟨rfl, htread⟩ := decode_eq_ok_iff.mp ht
  obtain ⟨hbytes, huread⟩ := decode_eq_ok_iff.mp hu
  rw [← List.append_nil u.encode] at hbytes
  exact (encode_append_inj htread huread hbytes).2

end Transaction

end Ledger

end ShieldedPool
