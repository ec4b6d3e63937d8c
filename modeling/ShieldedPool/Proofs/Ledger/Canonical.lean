import ShieldedPool.Ledger.Signed
import ShieldedPool.Proofs.Ledger.Forms
import ShieldedPool.Proofs.Ledger.Transaction

namespace ShieldedPool.Ledger

open MessagePack (Canonical Value sizeLimit)

def FieldValue.value : FieldValue → Value
  | .number n => .number n
  | .text s => .text s
  | .blob bs => .blob bs
  | .blobs items => .list (items.map .blob)

theorem FieldValue.write_canonical {v : FieldValue} (h : v.Fits) : Canonical v.value v.write := by
  cases v with
  | number n => exact .number (MessagePack.uint_shortest n)
  | text s => exact MessagePack.text_canonical h
  | blob bs => exact MessagePack.blob_canonical h
  | blobs items => exact MessagePack.blobs_canonical h.1 h.2

namespace Transaction

def keyNames : List String := ["gh", "grp", "rcv", "snd"]

inductive Tells (t : Transaction) : String → Value → Prop
  | fee : Tells t "fee" (.number t.fee)
  | firstValid : Tells t "fv" (.number t.firstValid)
  | lastValid : Tells t "lv" (.number t.lastValid)
  | genesisId : Tells t "gen" (.text t.genesisId)
  | genesisHash : Tells t "gh" (.blob t.genesisHash.bytes)
  | group {g : GroupId} (h : t.group = some g) : Tells t "grp" (.blob g.id.bytes)
  | note : Tells t "note" (.blob t.note)
  | sender : Tells t "snd" (.blob t.sender.key.bytes)
  | receiver {receiver : Address} {amount : UInt64} (h : t.kind = .payment receiver amount) :
      Tells t "rcv" (.blob receiver.key.bytes)
  | amount {receiver : Address} {amount : UInt64} (h : t.kind = .payment receiver amount) :
      Tells t "amt" (.number amount)
  | payment {receiver : Address} {amount : UInt64} (h : t.kind = .payment receiver amount) :
      Tells t "type" (.text "pay")
  | appId {appId : UInt64} {args : List Bytes} {accounts : List Address}
      (h : t.kind = .appCall appId args accounts) : Tells t "apid" (.number appId)
  | args {appId : UInt64} {args : List Bytes} {accounts : List Address}
      (h : t.kind = .appCall appId args accounts) : Tells t "apaa" (.list (args.map .blob))
  | accounts {appId : UInt64} {args : List Bytes} {accounts : List Address}
      (h : t.kind = .appCall appId args accounts) :
      Tells t "apat" (.list ((accounts.map (·.key.bytes)).map .blob))
  | appCall {appId : UInt64} {args : List Bytes} {accounts : List Address}
      (h : t.kind = .appCall appId args accounts) : Tells t "type" (.text "appl")

inductive Blank (name : String) : Value → Prop
  | number : Blank name (.number 0)
  | text : Blank name (.text "")
  | blob : Blank name (.blob [])
  | list : Blank name (.list [])
  | key {bs : Bytes} (hname : name ∈ keyNames) (h : ∀ b ∈ bs, b = 0) : Blank name (.blob bs)

section Entries

variable {t : Transaction} {f : String × FieldValue} {w : Word}

theorem blank_of_isEmpty (name : String) {v : FieldValue} (h : v.isEmpty = true) :
    Blank name v.value := by
  cases v with
  | number n => rw [eq_of_beq h]; exact .number
  | text s => rw [String.isEmpty_iff.mp h]; exact .text
  | blob bs => rw [List.isEmpty_iff.mp h]; exact .blob
  | blobs items => rw [List.isEmpty_iff.mp h]; exact .list

theorem keyField_filled (h : (keyField w).isEmpty = false) :
    keyField w = .blob w.bytes ∧ ∃ b ∈ w.bytes, b ≠ 0 := by
  cases hzero : w.isZero with
  | true => simp [keyField, hzero, FieldValue.isEmpty] at h
  | false => exact ⟨by simp [keyField, hzero], by simpa [Block.isZero] using hzero⟩

theorem keyField_of_not_blank {name : String} (hname : name ∈ keyNames)
    (h : ¬ Blank name (.blob w.bytes)) : keyField w = .blob w.bytes := by
  cases hzero : w.isZero with
  | true => exact absurd (.key hname (by simpa [Block.isZero] using hzero)) h
  | false => simp [keyField, hzero]

theorem key_of_mem (t : Transaction) : ∀ f ∈ t.allFields, f.1 ∈ keyNames →
    f.2 = .blob [] ∨ ∃ w, f.2 = keyField w := by
  have hgroup : groupField t.group = .blob [] ∨ ∃ w, groupField t.group = keyField w := by
    cases t.group with
    | none => exact .inl rfl
    | some g => exact .inr ⟨g.id, rfl⟩
  unfold allFields
  cases t.kind <;> simpa [keyNames] using hgroup

theorem tells_of_mem (t : Transaction) : ∀ f ∈ t.allFields, f.2.isEmpty = false →
    t.Tells f.1 f.2.value := by
  have hkey {name : String} {w : Word} (h : t.Tells name (.blob w.bytes))
      (hfilled : (keyField w).isEmpty = false) : t.Tells name (keyField w).value := by
    rw [(keyField_filled hfilled).1]
    exact h
  have hgroup : (groupField t.group).isEmpty = false →
      t.Tells "grp" (groupField t.group).value := by
    cases hg : t.group with
    | none => intro h; cases h
    | some g => exact hkey (.group hg)
  unfold allFields
  cases hkind : t.kind with
  | payment receiver amount =>
    simp only [List.forall_mem_cons]
    exact ⟨fun _ => .amount hkind, nofun, nofun, nofun, fun _ => .fee, fun _ => .firstValid,
      fun _ => .genesisId, hkey .genesisHash, hgroup, fun _ => .lastValid, fun _ => .note,
      hkey (.receiver hkind), hkey .sender, fun _ => .payment hkind, nofun⟩
  | appCall appId args accounts =>
    simp only [List.forall_mem_cons]
    exact ⟨nofun, fun _ => .args hkind, fun _ => .accounts hkind, fun _ => .appId hkind,
      fun _ => .fee, fun _ => .firstValid, fun _ => .genesisId, hkey .genesisHash, hgroup,
      fun _ => .lastValid, fun _ => .note, nofun, hkey .sender, fun _ => .appCall hkind, nofun⟩

theorem mem_of_tells {name : String} {v : Value} (h : t.Tells name v) (hv : ¬ Blank name v) :
    ∃ x, (name, x) ∈ t.allFields ∧ x.value = v := by
  have hboth : ∀ f ∈ [("fee", .number t.fee), ("fv", .number t.firstValid),
      ("gen", .text t.genesisId), ("gh", keyField t.genesisHash), ("grp", groupField t.group),
      ("lv", .number t.lastValid), ("note", .blob t.note), ("snd", keyField t.sender.key)],
      f ∈ t.allFields := by
    unfold allFields
    cases t.kind <;> simp
  have hkey {w : Word} (hname : name ∈ keyNames) (hv : ¬ Blank name (.blob w.bytes)) :
      (keyField w).value = .blob w.bytes := by
    rw [keyField_of_not_blank hname hv]
    rfl
  cases h with
  | fee => exact ⟨.number t.fee, hboth _ (by simp), rfl⟩
  | firstValid => exact ⟨.number t.firstValid, hboth _ (by simp), rfl⟩
  | lastValid => exact ⟨.number t.lastValid, hboth _ (by simp), rfl⟩
  | genesisId => exact ⟨.text t.genesisId, hboth _ (by simp), rfl⟩
  | genesisHash => exact ⟨keyField t.genesisHash, hboth _ (by simp), hkey (by decide) hv⟩
  | @group g hg => exact ⟨keyField g.id, hboth _ (by simp [groupField, hg]), hkey (by decide) hv⟩
  | note => exact ⟨.blob t.note, hboth _ (by simp), rfl⟩
  | sender => exact ⟨keyField t.sender.key, hboth _ (by simp), hkey (by decide) hv⟩
  | @receiver receiver _ hkind =>
    exact ⟨keyField receiver.key, by simp [allFields, hkind], hkey (by decide) hv⟩
  | @amount _ amount hkind => exact ⟨.number amount, by simp [allFields, hkind], rfl⟩
  | payment hkind => exact ⟨.text "pay", by simp [allFields, hkind], rfl⟩
  | @appId appId _ _ hkind => exact ⟨.number appId, by simp [allFields, hkind], rfl⟩
  | @args _ args _ hkind => exact ⟨.blobs args, by simp [allFields, hkind], rfl⟩
  | @accounts _ _ accounts hkind =>
    exact ⟨.blobs (accounts.map (·.key.bytes)), by simp [allFields, hkind], rfl⟩
  | appCall hkind => exact ⟨.text "appl", by simp [allFields, hkind], rfl⟩

theorem not_blank_of_mem (hf : f ∈ t.allFields) (hfilled : f.2.isEmpty = false) :
    ¬ Blank f.1 f.2.value := by
  obtain ⟨name, x⟩ := f
  intro hblank
  cases x with
  | number n => cases hblank; cases hfilled
  | text s => cases hblank; cases hfilled
  | blobs items =>
    cases items with
    | nil => cases hfilled
    | cons bs items => cases hblank
  | blob bs =>
    cases hblank with
    | blob => cases hfilled
    | key hname hzeros =>
      rcases key_of_mem t _ hf hname with hempty | ⟨w, hkey⟩
      · cases hempty; cases hfilled
      · rw [hkey] at hfilled
        obtain ⟨hw, b, hb, hne⟩ := keyField_filled hfilled
        cases hkey.trans hw
        exact hne (hzeros b hb)

def entries (t : Transaction) : List (String × Value) := t.fields.map fun f => (f.1, f.2.value)

theorem mem_entries {name : String} {v : Value} :
    (name, v) ∈ t.entries ↔ t.Tells name v ∧ ¬ Blank name v := by
  constructor
  · intro h
    obtain ⟨f, hf, heq⟩ := List.mem_map.mp h
    cases heq
    obtain ⟨hmem, hfilled⟩ := List.mem_filter.mp hf
    have hfilled : f.2.isEmpty = false := by simpa using hfilled
    exact ⟨tells_of_mem t f hmem hfilled, not_blank_of_mem hmem hfilled⟩
  · rintro ⟨htells, hblank⟩
    obtain ⟨x, hx, rfl⟩ := mem_of_tells htells hblank
    have hfilled : x.isEmpty = false :=
      Bool.eq_false_iff.mpr fun hempty => hblank (blank_of_isEmpty name hempty)
    have hfield : (name, x) ∈ t.fields := List.mem_filter.mpr ⟨hx, by simp [hfilled]⟩
    exact List.mem_map.mpr ⟨(name, x), hfield, rfl⟩

theorem names_ascend (t : Transaction) :
    (t.fields.map fun f => Text.utf8 f.1).Pairwise (· < ·) := by
  have hnames : t.allFields.map Prod.fst = fieldReaders.map Prod.fst := by
    rw [← readers_allFields t, List.map_map]
    rfl
  have hall : ((t.allFields.map Prod.fst).map Text.utf8).Pairwise (· < ·) := by
    rw [hnames]
    decide
  rw [List.map_map] at hall
  exact hall.sublist (List.filter_sublist.map _)

theorem encode_canonical (h : t.Fits) : Canonical (.map t.entries) t.encode := by
  have hmem : ∀ f ∈ t.fields, f ∈ t.allFields := fun f hf => (List.mem_filter.mp hf).1
  refine MessagePack.record_canonical ?_ t.names_ascend ?_ ?_
  · exact Nat.lt_trans t.length_fields_lt (by decide)
  · exact fun f hf => (fields_read h f hf).name
  · exact fun f hf => FieldValue.write_canonical (allFields_fit h f (hmem f hf))

end Entries

end Transaction

namespace Authorization

def content : Authorization → Bytes
  | .signature sig => sig
  | .program code => code

def entry : Authorization → String × Value
  | .signature sig => ("sig", .blob sig)
  | .program code => ("lsig", .map [("l", .blob code)])

end Authorization

theorem program_canonical {code : Bytes} (h : code.length < sizeLimit) :
    Canonical (.map [("l", .blob code)]) (MessagePack.record [("l", MessagePack.blob code)]) := by
  have hname : (Text.utf8 "l").length < sizeLimit := by decide
  have record := @MessagePack.record_canonical (Value × Bytes) Prod.fst Prod.snd
    [("l", .blob code, MessagePack.blob code)]
  exact record (by decide : 1 < sizeLimit) (List.pairwise_singleton _ _)
    (List.forall_mem_singleton.mpr hname)
    (List.forall_mem_singleton.mpr (MessagePack.blob_canonical h))

theorem approved_canonical {t : Transaction} (ht : t.Fits) {name : String} {v : Value} {bs : Bytes}
    (hname : (Text.utf8 name).length < sizeLimit) (hascend : Text.utf8 name < Text.utf8 "txn")
    (hv : Canonical v bs) : Canonical (.map [(name, v), ("txn", .map t.entries)])
      (MessagePack.record [(name, bs), ("txn", t.encode)]) := by
  have htxn : (Text.utf8 "txn").length < sizeLimit := by decide
  have record := @MessagePack.record_canonical (Value × Bytes) Prod.fst Prod.snd
    [(name, v, bs), ("txn", .map t.entries, t.encode)]
  exact record (by decide : 2 < sizeLimit) (List.pairwise_pair.mpr hascend)
    (List.forall_mem_cons.mpr ⟨hname, List.forall_mem_singleton.mpr htxn⟩)
    (List.forall_mem_cons.mpr
      ⟨hv, List.forall_mem_singleton.mpr (Transaction.encode_canonical ht)⟩)

theorem SignedTransaction.encode_canonical {t : Transaction} {auth : Authorization} (h : t.Fits)
    (hauth : auth.content.length < sizeLimit) :
    Canonical (.map [auth.entry, ("txn", .map t.entries)]) (encode ⟨t, auth⟩) := by
  cases auth with
  | signature sig =>
    exact approved_canonical h (by decide) (by decide) (MessagePack.blob_canonical hauth)
  | program code => exact approved_canonical h (by decide) (by decide) (program_canonical hauth)

theorem encodings_canonical {t : Transaction} (h : t.Fits) :
    ∃ entries : List (String × Value),
      (∀ name v, (name, v) ∈ entries ↔ t.Tells name v ∧ ¬ Transaction.Blank name v) ∧
      (∀ bs, Canonical (.map entries) bs ↔ bs = t.encode) ∧
      ∀ auth : Authorization, auth.content.length < sizeLimit → ∀ bs,
        Canonical (.map [auth.entry, ("txn", .map entries)]) bs ↔
          bs = SignedTransaction.encode ⟨t, auth⟩ := by
  have only {v : Value} {bs : Bytes} (hbs : Canonical v bs) (bs' : Bytes) :
      Canonical v bs' ↔ bs' = bs :=
    ⟨fun hbs' => hbs'.unique v hbs, fun heq => heq ▸ hbs⟩
  refine ⟨t.entries, fun _ _ => Transaction.mem_entries, only (Transaction.encode_canonical h), ?_⟩
  exact fun auth hauth => only (SignedTransaction.encode_canonical h hauth)

namespace SparsePayment

def payment : Transaction where
  sender := ⟨Block.zero 32⟩
  fee := 1000
  firstValid := 1
  lastValid := 128
  genesisId := ""
  genesisHash := Block.zero 32
  group := none
  note := []
  kind := .payment ⟨Block.zero 32⟩ 300

def written : Bytes :=
  [0x85, 0xa3, 97, 109, 116, 0xcd, 1, 44, 0xa3, 102, 101, 101, 0xcd, 3, 232, 0xa2, 102, 118, 1,
    0xa2, 108, 118, 0xcc, 128, 0xa4, 116, 121, 112, 101, 0xa3, 112, 97, 121]

def approval : Bytes :=
  [0x82, 0xa4, 108, 115, 105, 103, 0x81, 0xa1, 108, 0xc4, 1, 6, 0xa3, 116, 120, 110]

theorem payment_fits : payment.Fits where
  genesisId := Transaction.size_pos
  note := Transaction.size_pos
  call := fun _ _ _ h => by cases h

theorem payment_written : payment.encode = written ∧
    ∃ entries : List (String × Value), Canonical (.map entries) written ∧
      ("amt", .number 300) ∈ entries ∧ ("snd", .blob (Block.zero 32).bytes) ∉ entries ∧
      Canonical (.map [("lsig", .map [("l", .blob [6])]), ("txn", .map entries)])
        (approval ++ written) := by
  have hencode : payment.encode = written := by decide
  have hprogram : approval ++ written = SignedTransaction.encode ⟨payment, .program [6]⟩ := by
    decide
  obtain ⟨entries, hmem, hcanonical, hsigned⟩ := encodings_canonical payment_fits
  refine ⟨hencode, entries, (hcanonical _).mpr hencode.symm, (hmem _ _).mpr ⟨.amount rfl, nofun⟩,
    fun hsender => ?_, (hsigned (.program [6]) (by decide) _).mpr hprogram⟩
  exact ((hmem _ _).mp hsender).2 (.key (by decide) fun _ hb => List.eq_of_mem_replicate hb)

end SparsePayment

end ShieldedPool.Ledger
