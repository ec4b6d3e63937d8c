import ShieldedPool.Ledger.Signed
import ShieldedPool.Proofs.Ledger.Transaction

namespace ShieldedPool.Ledger

open MessagePack (Recovers Yields Reads sizeLimit)

def Authorization.Readable : Authorization → Prop
  | .signature sig => sig.length = SignedTransaction.signatureSize
  | .program code => code.length < sizeLimit

namespace SignedTransaction

structure Readable (s : SignedTransaction) : Prop where
  txn : s.txn.Readable
  auth : s.auth.Readable

def Part.write : Part → Bytes
  | .program (some code) => MessagePack.record [("l", MessagePack.blob code)]
  | .signature (some sig) => MessagePack.blob sig
  | .txn fs => MessagePack.record (fs.map fun f => (f.1, f.2.write))
  | _ => [0xc0]

def partsOf (fs : Transaction.FieldList) : Authorization → List (String × Part)
  | .signature sig => [("sig", .signature (some sig)), ("txn", .txn fs)]
  | .program code => [("lsig", .program (some code)), ("txn", .txn fs)]

def parts (s : SignedTransaction) : List (String × Part) := partsOf s.txn.fields s.auth

theorem encode_eq (s : SignedTransaction) :
    s.encode = MessagePack.record (s.parts.map fun p => (p.1, p.2.write)) := by
  unfold encode parts
  cases s.auth <;> rfl

section Parts

theorem readProgram_recovers {code : Bytes} (h : code.length < sizeLimit) :
    Recovers readProgram (fun code => MessagePack.record [("l", MessagePack.blob code)]) code := by
  have hname : (Text.utf8 "l").length < sizeLimit := by decide
  have hreads : ∀ e ∈ [("l", code)], Reads [("l", MessagePack.readBlob)] MessagePack.blob e := by
    intro e he
    cases List.mem_singleton.mp he
    exact ⟨hname, _, rfl, MessagePack.readBlob_recovers h⟩
  have hcount : [("l", code)].length < sizeLimit := (by decide : 1 < sizeLimit)
  have hnames : ([("l", code)].map Prod.fst).Nodup := (by decide : ["l"].Nodup)
  intro rest
  have hread : MessagePack.readRecord [("l", MessagePack.readBlob)]
      (MessagePack.record [("l", MessagePack.blob code)] ++ rest) = some ([("l", code)], rest) :=
    MessagePack.readRecord_record hreads hcount hnames rest
  unfold readProgram
  dsimp only
  rw [hread]

theorem program_recovers {code : Bytes} (h : code.length < sizeLimit) :
    Recovers (fun bs => (MessagePack.readOptional readProgram bs).map
      fun (p, rest) => (Part.program p, rest)) Part.write (.program (some code)) := by
  intro rest
  have hone : [("l", MessagePack.blob code)].length < sizeLimit := (by decide : 1 < sizeLimit)
  have hmark := MessagePack.marker_record hone rest
  have hread := MessagePack.readOptional_some hmark (by simp) (readProgram_recovers h rest)
  dsimp only [Part.write]
  rw [hread, Option.map_some]

theorem signature_recovers {sig : Bytes} (h : sig.length < sizeLimit) :
    Recovers (fun bs => (MessagePack.readOptional MessagePack.readBlob bs).map
      fun (s, rest) => (Part.signature s, rest)) Part.write (.signature (some sig)) := by
  intro rest
  have hread := MessagePack.readOptional_some (MessagePack.marker_blob h rest) (by simp)
    (MessagePack.readBlob_recovers h rest)
  dsimp only [Part.write]
  rw [hread, Option.map_some]

theorem txn_recovers {t : Transaction} (h : t.Fits) :
    Recovers (fun bs => (Transaction.readFields bs).map fun (fs, rest) => (Part.txn fs, rest))
      Part.write (.txn t.fields) := by
  intro rest
  have hread := Transaction.readFields_encode h rest
  unfold Transaction.encode at hread
  dsimp only [Part.write]
  rw [hread, Option.map_some]

theorem partsOf_read {t : Transaction} {auth : Authorization} (ht : t.Fits)
    (hauth : auth.Readable) : ∀ p ∈ partsOf t.fields auth, Reads partReaders Part.write p := by
  have hnames : ∀ f ∈ partReaders, (Text.utf8 f.1).length < sizeLimit := by decide
  have htxn : Reads partReaders Part.write ("txn", .txn t.fields) :=
    ⟨hnames _ (.tail _ (.tail _ (.head _))), _, rfl, txn_recovers ht⟩
  cases auth with
  | signature sig =>
    have hlength : sig.length = signatureSize := hauth
    have hlt : sig.length < sizeLimit := by
      rw [hlength]
      decide
    have hsig : Reads partReaders Part.write ("sig", .signature (some sig)) :=
      ⟨hnames _ (.tail _ (.head _)), _, rfl, signature_recovers hlt⟩
    simp [partsOf, hsig, htxn]
  | program code =>
    have hprogram : Reads partReaders Part.write ("lsig", .program (some code)) :=
      ⟨hnames _ (.head _), _, rfl, program_recovers hauth⟩
    simp [partsOf, hprogram, htxn]

theorem readRecord_encode {s : SignedTransaction} (h : s.Readable) (rest : Bytes) :
    MessagePack.readRecord partReaders (s.encode ++ rest) = some (s.parts, rest) := by
  have hcount : s.parts.length < sizeLimit := by
    have htwo : s.parts.length = 2 := by unfold parts; cases s.auth <;> rfl
    rw [htwo]
    decide
  have hnames : (s.parts.map Prod.fst).Nodup := by
    unfold parts
    cases s.auth with
    | signature sig => exact (by decide : ["sig", "txn"].Nodup)
    | program code => exact (by decide : ["lsig", "txn"].Nodup)
  rw [encode_eq]
  exact MessagePack.readRecord_record (partsOf_read h.txn.toFits h.auth) hcount hnames rest

theorem ofParts_parts {s : SignedTransaction} (h : s.Readable) :
    ofParts s.parts s.txn.fields = .ok s := by
  obtain ⟨t, auth⟩ := s
  have ht : Transaction.ofFields t.fields = .ok t := Transaction.ofFields_fields h.txn.group
  unfold ofParts parts
  dsimp only
  rw [ht]
  cases auth with
  | signature sig =>
    have hsig : authorization (some sig) none = .ok (.signature sig) := if_pos h.auth
    change (authorization (some sig) none >>= fun auth => _) = _
    rw [hsig]
    rfl
  | program code => rfl

theorem decodeFront_encode {s : SignedTransaction} (h : s.Readable) (rest : Bytes) :
    decodeFront (s.encode ++ rest) = .ok (s, rest) := by
  have htxn : s.parts.lookup "txn" = some (.txn s.txn.fields) := by
    unfold parts
    cases s.auth <;> rfl
  unfold decodeFront
  rw [readRecord_encode h]
  dsimp only
  rw [htxn]
  dsimp only
  rw [ofParts_parts h]
  exact if_pos rfl

end Parts

section Readers

def Part.Fits : Part → Prop
  | .program code => ∀ bs, code = some bs → bs.length < sizeLimit
  | .signature _ => True
  | .txn fs => ∀ f ∈ fs, f.2.Fits

theorem yields_readProgram : Yields readProgram fun bs => bs.length < sizeLimit := by
  intro bs code rest h
  have hblob : ∀ f ∈ [("l", MessagePack.readBlob)], Yields f.2 fun bs => bs.length < sizeLimit := by
    intro f hf
    cases List.mem_singleton.mp hf
    exact MessagePack.yields_readBlob
  unfold readProgram at h
  split at h
  case h_1 name code' rest' hread =>
    cases h
    exact MessagePack.yields_readRecord hblob bs _ rest hread _ (List.mem_singleton.mpr rfl)
  case h_2 => cases h

theorem partReaders_yield : ∀ f ∈ partReaders, Yields f.2 Part.Fits := by
  have hprogram : Yields (fun bs => (MessagePack.readOptional readProgram bs).map
      fun (p, rest) => (Part.program p, rest)) Part.Fits := by
    intro bs part rest h
    obtain ⟨⟨code, rest'⟩, hcode, heq⟩ := Option.map_eq_some_iff.mp h
    cases heq
    exact MessagePack.yields_readOptional yields_readProgram bs code rest hcode
  have hsignature : Yields (fun bs => (MessagePack.readOptional MessagePack.readBlob bs).map
      fun (s, rest) => (Part.signature s, rest)) Part.Fits := by
    intro bs part rest h
    obtain ⟨⟨sig, rest'⟩, -, heq⟩ := Option.map_eq_some_iff.mp h
    cases heq
    trivial
  have htxn : Yields (fun bs => (Transaction.readFields bs).map
      fun (fs, rest) => (Part.txn fs, rest)) Part.Fits := by
    intro bs part rest h
    obtain ⟨⟨fs, rest'⟩, hfs, heq⟩ := Option.map_eq_some_iff.mp h
    cases heq
    exact Transaction.yields_readFields bs fs rest hfs
  simp [partReaders, hprogram, hsignature, htxn]

variable {parts : List (String × Part)}

theorem authorization_readable {sig program : Option Bytes} {auth : Authorization}
    (hprogram : ∀ code, program = some code → code.length < sizeLimit)
    (h : authorization sig program = .ok auth) : auth.Readable := by
  unfold authorization at h
  split at h
  · split at h
    case isTrue hlength => cases h; exact hlength
    case isFalse => cases h
  · cases h; exact hprogram _ rfl
  · cases h

theorem ofParts_readable {fs : Transaction.FieldList} (hparts : ∀ p ∈ parts, p.2.Fits)
    (hfs : ∀ f ∈ fs, f.2.Fits) {s : SignedTransaction} (h : ofParts parts fs = .ok s) :
    s.Readable := by
  unfold ofParts at h
  obtain ⟨auth, hauth, h⟩ := bind_ok h
  obtain ⟨txn, htxn, h⟩ := bind_ok h
  cases h
  refine ⟨Transaction.ofFields_readable hfs htxn, authorization_readable ?_ hauth⟩
  intro code hcode
  split at hcode
  case h_1 p hp => exact MessagePack.of_lookup hparts hp code hcode
  case h_2 => cases hcode

theorem decodeFront_eq_ok_iff {bs rest : Bytes} {s : SignedTransaction} :
    decodeFront bs = .ok (s, rest) ↔ bs = s.encode ++ rest ∧ s.Readable := by
  constructor
  · intro h
    unfold decodeFront at h
    split at h
    case h_1 => cases h
    case h_2 parts rest' hread =>
      have hparts := MessagePack.yields_readRecord partReaders_yield bs parts rest' hread
      split at h
      case h_1 fs hfs =>
        obtain ⟨s', hs', h⟩ := bind_ok h
        split at h
        case isTrue hcanonical =>
          cases h
          exact ⟨hcanonical.symm, ofParts_readable hparts (MessagePack.of_lookup hparts hfs) hs'⟩
        case isFalse => cases h
      case h_2 => cases h
  · rintro ⟨rfl, h⟩
    exact decodeFront_encode h rest

end Readers

end SignedTransaction

section Group

theorem SignedTransaction.encode_ne_nil {s : SignedTransaction} (h : s.Readable) :
    s.encode ≠ [] := by
  intro hempty
  have hread := decodeFront_encode h []
  rw [hempty] at hread
  cases hread

theorem encodeGroup_cons (s : SignedTransaction) (group : List SignedTransaction) :
    encodeGroup (s :: group) = s.encode ++ encodeGroup group := List.flatMap_cons

theorem decodeMembers_encodeGroup {group : List SignedTransaction} (h : ∀ s ∈ group, s.Readable)
    {fuel : Nat} (hfuel : (encodeGroup group).length ≤ fuel) :
    decodeMembers fuel (encodeGroup group) = .ok group := by
  induction group generalizing fuel with
  | nil => cases fuel <;> rfl
  | cons s group ih =>
    have hs := h s (List.mem_cons_self ..)
    have hlength := List.length_pos_iff.mpr (SignedTransaction.encode_ne_nil hs)
    have hfront := SignedTransaction.decodeFront_encode hs (encodeGroup group)
    rw [encodeGroup_cons, List.length_append] at hfuel
    rw [encodeGroup_cons]
    obtain ⟨b, bs, hbytes⟩ := List.exists_cons_of_ne_nil (SignedTransaction.encode_ne_nil hs)
    rw [hbytes, List.cons_append] at hfront ⊢
    cases fuel with
    | zero => omega
    | succ fuel =>
      have hfuel' : (encodeGroup group).length ≤ fuel := by omega
      have hrest := ih (fun u hu => h u (List.mem_cons_of_mem s hu)) hfuel'
      rw [decodeMembers, hfront]
      change (decodeMembers fuel (encodeGroup group) >>= fun others => _) = _
      rw [hrest]
      rfl

theorem decodeMembers_ok {fuel : Nat} {bs : Bytes} {group : List SignedTransaction}
    (h : decodeMembers fuel bs = .ok group) :
    bs = encodeGroup group ∧ ∀ s ∈ group, s.Readable := by
  induction fuel generalizing bs group with
  | zero =>
    cases bs with
    | nil => cases h; exact ⟨rfl, fun s hs => by cases hs⟩
    | cons b bs => cases h
  | succ fuel ih =>
    cases bs with
    | nil => cases h; exact ⟨rfl, fun s hs => by cases hs⟩
    | cons b bs =>
      rw [decodeMembers] at h
      obtain ⟨⟨s, rest⟩, hfront, h⟩ := bind_ok h
      obtain ⟨others, hothers, h⟩ := bind_ok h
      cases h
      obtain ⟨hbytes, hs⟩ := SignedTransaction.decodeFront_eq_ok_iff.mp hfront
      obtain ⟨hrest, hall⟩ := ih hothers
      refine ⟨by rw [hbytes, hrest, encodeGroup_cons], fun u hu => ?_⟩
      rcases List.mem_cons.mp hu with rfl | hu
      · exact hs
      · exact hall u hu

theorem decodeGroup_eq_ok_iff {bs : Bytes} {group : List SignedTransaction} :
    decodeGroup bs = .ok group ↔ bs = encodeGroup group ∧ ∀ s ∈ group, s.Readable := by
  constructor
  · exact decodeMembers_ok
  · rintro ⟨rfl, h⟩
    exact decodeMembers_encodeGroup h (Nat.le_refl _)

theorem SignedTransaction.decode_eq_ok_iff {bs : Bytes} {s : SignedTransaction} :
    decode bs = .ok s ↔ bs = s.encode ∧ s.Readable := by
  have hsingle : decode bs = .ok s ↔ decodeGroup bs = .ok [s] := by
    unfold decode
    constructor
    · intro h
      split at h
      case h_1 => cases h
      case h_2 member hgroup => cases h; exact hgroup
      case h_3 => cases h
    · intro h
      rw [h]
  rw [hsingle, decodeGroup_eq_ok_iff, encodeGroup_cons]
  simp [encodeGroup]

theorem encodeGroup_inj {group others : List SignedTransaction} (h : ∀ s ∈ group, s.Readable)
    (hothers : ∀ s ∈ others, s.Readable) (heq : encodeGroup group = encodeGroup others) :
    group = others := by
  exact eq_of_read_back (decodeGroup_eq_ok_iff.mpr ⟨rfl, h⟩)
    (decodeGroup_eq_ok_iff.mpr ⟨rfl, hothers⟩) heq

theorem encodings_exact :
    (∀ bs t, Transaction.decode bs = .ok t ↔ bs = t.encode ∧ t.Readable) ∧
      (∀ bs group, decodeGroup bs = .ok group ↔
        bs = encodeGroup group ∧ ∀ s ∈ group, s.Readable) ∧
      (∀ bs x t u, Transaction.decode bs = .ok t → Transaction.decode (bs ++ x) = .ok u → x = []) ∧
      (∀ t u : Transaction, t.Readable → u.Readable → t.encode = u.encode → t = u) ∧
      ∀ group others, (∀ s ∈ group, s.Readable) → (∀ s ∈ others, s.Readable) →
        encodeGroup group = encodeGroup others → group = others := by
  refine ⟨fun bs t => Transaction.decode_eq_ok_iff, fun bs group => decodeGroup_eq_ok_iff,
    fun bs x t u => Transaction.decode_append, fun t u ht hu heq => ?_,
    fun group others => encodeGroup_inj⟩
  exact (Transaction.encode_append_inj ht hu (congrArg (· ++ []) heq)).1

end Group

end ShieldedPool.Ledger
