import ShieldedPool.Proofs.Ledger.Transaction

namespace ShieldedPool

def Hash.Sha512.Collision (xs ys : List Bytes) : Prop :=
  ∃ x ∈ xs, ∃ y ∈ ys, x ≠ y ∧ hash256 x = hash256 y

namespace Ledger

open Hash.Sha512 (hash256 Collision)

namespace MessagePack

theorem length_arrayHeader (n : Nat) :
    0 < (arrayHeader n).length ∧ (arrayHeader n).length < 6 := by
  unfold arrayHeader
  split
  · simp
  · split <;> simp

theorem length_blob_word (w : Word) : (blob w.bytes).length = 34 := by
  simp [blob, blobHeader, w.length_eq]

theorem length_flatMap_blob (ws : List Word) :
    ((ws.map Block.bytes).flatMap blob).length = 34 * ws.length := by
  induction ws with
  | nil => rfl
  | cons w ws ih =>
    rw [List.map_cons, List.flatMap_cons, List.length_append, ih, length_blob_word,
      List.length_cons]
    omega

theorem flatMap_blob_inj {ws vs : List Word} (hlength : ws.length = vs.length)
    (h : (ws.map Block.bytes).flatMap blob = (vs.map Block.bytes).flatMap blob) : ws = vs := by
  have hread (us : List Word) :
      readMany readBlob us.length ((us.map Block.bytes).flatMap blob ++ []) =
        some (us.map Block.bytes, []) := by
    have hall : ∀ bs ∈ us.map Block.bytes, Recovers readBlob blob bs := by
      intro bs hbs
      obtain ⟨u, -, rfl⟩ := List.mem_map.mp hbs
      exact readBlob_recovers (Transaction.key_lt u)
    simpa using readMany_flatMap hall []
  have hsame := hread ws
  rw [h, hlength, hread vs] at hsame
  have hbytes : vs.map Block.bytes = ws.map Block.bytes := by simpa using hsame
  exact ((List.map_inj_right fun _ _ => Block.eq_of_bytes_eq).mp hbytes).symm

theorem blobs_words_inj {ws vs : List Word}
    (h : blobs (ws.map Block.bytes) = blobs (vs.map Block.bytes)) : ws = vs := by
  have htotal := congrArg List.length h
  simp only [blobs, List.length_append, List.length_map, length_flatMap_blob] at htotal
  have hws := length_arrayHeader ws.length
  have hvs := length_arrayHeader vs.length
  have hlength : ws.length = vs.length := by omega
  simp only [blobs, List.length_map, hlength] at h
  exact flatMap_blob_inj hlength (List.append_cancel_left h)

theorem record_one_inj {name : String} {x y : Bytes}
    (h : record [(name, x)] = record [(name, y)]) : x = y := by
  simpa [record] using h

end MessagePack

namespace Transaction

def ungrouped (t : Transaction) : Transaction := { t with group := none }

def memberBytes (t : Transaction) : Bytes := Text.utf8 "TX" ++ t.ungrouped.encode

theorem ungrouped_readable {t : Transaction} (h : t.Fits) : t.ungrouped.Readable where
  genesisId := h.genesisId
  note := h.note
  call := h.call
  group := by simp [ungrouped]

theorem memberBytes_inj {t u : Transaction} (ht : t.Fits) (hu : u.Fits)
    (h : t.memberBytes = u.memberBytes) : t.ungrouped = u.ungrouped := by
  have hencode : t.ungrouped.encode = u.ungrouped.encode := List.append_cancel_left h
  exact (encode_append_inj (ungrouped_readable ht) (ungrouped_readable hu)
    (congrArg (· ++ []) hencode)).1

end Transaction

open Transaction (ungrouped memberBytes)

def memberDigests (ts : List Transaction) : List Word := ts.map fun t => hash256 t.memberBytes

def listBytes (ts : List Transaction) : Bytes :=
  Text.utf8 "TG" ++
    MessagePack.record [("txlist", MessagePack.blobs ((memberDigests ts).map Block.bytes))]

def hashedInputs (ts : List Transaction) : List Bytes := listBytes ts :: ts.map memberBytes

theorem assignGroup_id (ts : List Transaction) :
    (assignGroup ts).1 = ⟨hash256 (listBytes ts)⟩ := by
  simp only [assignGroup, groupDigest, listBytes, memberDigests, List.map_map]
  rfl

theorem listBytes_inj {ts us : List Transaction} (h : listBytes ts = listBytes us) :
    memberDigests ts = memberDigests us :=
  MessagePack.blobs_words_inj (MessagePack.record_one_inj (List.append_cancel_left h))

theorem members_of_digests {ts us : List Transaction} (hts : ∀ t ∈ ts, t.Fits)
    (hus : ∀ u ∈ us, u.Fits) (h : memberDigests ts = memberDigests us) :
    ts.map ungrouped = us.map ungrouped ∨
      Collision (ts.map memberBytes) (us.map memberBytes) := by
  induction ts generalizing us with
  | nil =>
    cases us with
    | nil => exact .inl rfl
    | cons u us => cases h
  | cons t ts ih =>
    cases us with
    | nil => cases h
    | cons u us =>
      obtain ⟨hhead, htail⟩ := List.cons_eq_cons.mp h
      obtain ⟨ht, hts⟩ := List.forall_mem_cons.mp hts
      obtain ⟨hu, hus⟩ := List.forall_mem_cons.mp hus
      by_cases hbytes : t.memberBytes = u.memberBytes
      · rcases ih hts hus htail with hsame | ⟨x, hx, y, hy, hne, hxy⟩
        · left
          rw [List.map_cons, List.map_cons, Transaction.memberBytes_inj ht hu hbytes, hsame]
        · exact .inr ⟨x, List.mem_cons_of_mem _ hx, y, List.mem_cons_of_mem _ hy, hne, hxy⟩
      · exact .inr ⟨_, List.mem_cons_self .., _, List.mem_cons_self .., hbytes, hhead⟩

theorem members_of_id {ts us : List Transaction} (hts : ∀ t ∈ ts, t.Fits)
    (hus : ∀ u ∈ us, u.Fits) (h : (assignGroup ts).1 = (assignGroup us).1) :
    ts.map ungrouped = us.map ungrouped ∨ Collision (hashedInputs ts) (hashedInputs us) := by
  rw [assignGroup_id, assignGroup_id] at h
  have hdigest : hash256 (listBytes ts) = hash256 (listBytes us) := GroupId.mk.inj h
  by_cases hlist : listBytes ts = listBytes us
  · rcases members_of_digests hts hus (listBytes_inj hlist) with hsame | ⟨x, hx, y, hy, hne, hxy⟩
    · exact .inl hsame
    · exact .inr ⟨x, List.mem_cons_of_mem _ hx, y, List.mem_cons_of_mem _ hy, hne, hxy⟩
  · exact .inr ⟨_, List.mem_cons_self .., _, List.mem_cons_self .., hlist, hdigest⟩

theorem id_of_members {ts us : List Transaction} (h : ts.map ungrouped = us.map ungrouped) :
    (assignGroup ts).1 = (assignGroup us).1 := by
  have hmembers : ts.map memberBytes = us.map memberBytes := by
    have hbytes := congrArg (List.map fun t : Transaction => Text.utf8 "TX" ++ t.encode) h
    rw [List.map_map, List.map_map] at hbytes
    exact hbytes
  have hdigests : memberDigests ts = memberDigests us := by
    have hhashes := congrArg (List.map hash256) hmembers
    rw [List.map_map, List.map_map] at hhashes
    exact hhashes
  rw [assignGroup_id, assignGroup_id, listBytes, hdigests, listBytes]

theorem assignGroup_members (ts : List Transaction) :
    (assignGroup ts).2 = ts.map fun t => { t with group := some (assignGroup ts).1 } := rfl

theorem assignGroup_ungrouped (ts : List Transaction) :
    (assignGroup ts).2.map ungrouped = ts.map ungrouped := by
  rw [assignGroup_members, List.map_map]
  rfl

theorem assignGroup_again (ts : List Transaction) :
    assignGroup (assignGroup ts).2 = assignGroup ts := by
  have hid := id_of_members (assignGroup_ungrouped ts)
  apply Prod.ext hid
  rw [assignGroup_members, hid, assignGroup_members, List.map_map]
  rfl

theorem assignGroup_binds (ts us : List Transaction) :
    ((∀ t ∈ ts, t.Fits) → (∀ u ∈ us, u.Fits) → (assignGroup ts).1 = (assignGroup us).1 →
        ts.map ungrouped = us.map ungrouped ∨ Collision (hashedInputs ts) (hashedInputs us)) ∧
      (ts.map ungrouped = us.map ungrouped → (assignGroup ts).1 = (assignGroup us).1) ∧
      List.Forall₂ (fun t t' => t'.ungrouped = t.ungrouped ∧ t'.group = some (assignGroup ts).1)
        ts (assignGroup ts).2 ∧
      assignGroup (assignGroup ts).2 = assignGroup ts := by
  refine ⟨members_of_id, id_of_members, ?_, assignGroup_again ts⟩
  rw [assignGroup_members, List.forall₂_map_right_iff]
  exact List.forall₂_same.mpr fun t _ => ⟨rfl, rfl⟩

namespace TwoPayments

def payment (amount : UInt64) (group : Option GroupId) : Transaction where
  sender := ⟨Block.zero 32⟩
  fee := 1000
  firstValid := 1
  lastValid := 1001
  genesisId := ""
  genesisHash := Block.zero 32
  group
  note := []
  kind := .payment ⟨Block.zero 32⟩ amount

def ordered : List Transaction := [payment 5 none, payment 7 none]

def swapped : List Transaction := [payment 7 none, payment 5 none]

def regrouped : List Transaction := [payment 5 (some .zero), payment 7 none]

theorem payment_fits (amount : UInt64) (group : Option GroupId) : (payment amount group).Fits where
  genesisId := Transaction.size_pos
  note := Transaction.size_pos
  call := fun _ _ _ h => by cases h

theorem payments_bind :
    (assignGroup ordered).1 = (assignGroup regrouped).1 ∧
      (ordered.map ungrouped = regrouped.map ungrouped ∨
        Collision (hashedInputs ordered) (hashedInputs regrouped)) ∧
      ((assignGroup ordered).1 = (assignGroup swapped).1 →
        Collision (hashedInputs ordered) (hashedInputs swapped)) := by
  have hordered : ∀ t ∈ ordered, t.Fits := by
    simpa [ordered] using And.intro (payment_fits 5 none) (payment_fits 7 none)
  have hregrouped : ∀ t ∈ regrouped, t.Fits := by
    simpa [regrouped] using And.intro (payment_fits 5 (some .zero)) (payment_fits 7 none)
  have hswapped : ∀ t ∈ swapped, t.Fits := by
    simpa [swapped] using And.intro (payment_fits 7 none) (payment_fits 5 none)
  have hid := (assignGroup_binds ordered regrouped).2.1 rfl
  refine ⟨hid, (assignGroup_binds ordered regrouped).1 hordered hregrouped hid, fun h => ?_⟩
  rcases (assignGroup_binds ordered swapped).1 hordered hswapped h with hsame | hcollision
  · exact absurd hsame (by decide)
  · exact hcollision

end TwoPayments

end Ledger

end ShieldedPool
