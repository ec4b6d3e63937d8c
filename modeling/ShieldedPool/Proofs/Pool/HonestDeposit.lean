import ShieldedPool.Proofs.Ledger.Members
import ShieldedPool.Proofs.Pool.Aftermath
import ShieldedPool.Proofs.Pool.DepositThreads

namespace ShieldedPool.Pool

open Ledger (SignedTransaction Transaction decodeGroup encodeGroup)
open Ledger.MessagePack (sizeLimit)

section Preparing

variable {σ : Type} {client : Ledger.Client σ} {c : Settings} {amount : UInt64} {address : Address}
  {s s' : State} {l l' : σ}

structure Issues (client : Ledger.Client σ) (c : Settings) (amount : UInt64) (address : Address)
    (l : σ) (t : DepositTicket) (s : State) (d : PreparedDeposit) : Prop where
  built : ∃ params note g, (client.answer .params l).1 = .ok params ∧
    c.builder.deposit amount address note params = .ok g ∧ d = prepared amount address note g
  given : t = ticket d
  stored : ∃ now, s.sessions.find? t.groupId = some ⟨d, now⟩

theorem storing_ok {d : PreparedDeposit} {t : DepositTicket}
    (h : (storing d).run client s l = (.ok t, s', l')) :
    t = ticket d ∧ s'.sessions.find? d.groupId = some ⟨d, s.now⟩ := by
  rw [storing, Flow.run_act] at h
  cases hlive : s.sessions.live? s.now d.groupId with
  | some session =>
    simp only [State.storeSession, Sessions.store, hlive] at h
    cases h
  | none =>
    simp only [State.storeSession, Sessions.store, hlive] at h
    cases h
    exact ⟨rfl, List.lookup_cons_self⟩

theorem building_ok {note : Note} {t : DepositTicket}
    (h : (building c amount address note).run client s l = (.ok t, s', l')) :
    ∃ d, Issues client c amount address l t s' d := by
  rw [building, Flow.run_ask] at h
  cases hparams : (client.answer .params l).1 with
  | error e => rw [hparams] at h; cases h
  | ok params =>
    rw [hparams] at h
    dsimp only at h
    cases hbuilt : c.builder.deposit amount address note params with
    | error e => rw [hbuilt] at h; cases h
    | ok g =>
      rw [hbuilt] at h
      obtain ⟨rfl, hstored⟩ := storing_ok h
      exact ⟨_, ⟨params, note, g, hparams, hbuilt, rfl⟩, rfl, s.now, hstored⟩

theorem prepareDeposit_ok {t : DepositTicket}
    (h : (prepareDeposit c amount address).run client s l = (.ok t, s', l')) :
    ∃ d, Issues client c amount address l t s' d := by
  rcases prepareDeposit_shape c amount address with ⟨e, hend⟩ | hshape
  · rw [hend] at h
    cases h
  · rw [hshape, Flow.run_act] at h
    cases hnote : (s.generateNote amount).1 with
    | error e => rw [hnote] at h; cases h
    | ok note =>
      rw [hnote] at h
      exact building_ok h

theorem prepareDeposit_of {note : Note} {params : Ledger.ChainParams} {g : Ledger.DepositGroup}
    (hmin : ¬ amount < c.builder.config.depositMinimum)
    (hnote : (s.generateNote amount).1 = .ok note)
    (hparams : (client.answer .params l).1 = .ok params)
    (hbuilt : c.builder.deposit amount address note params = .ok g)
    (hfree : s.sessions.live? s.now g.groupId = none) :
    (prepareDeposit c amount address).run client s l =
      (.ok (ticket (prepared amount address note g)),
        { (s.generateNote amount).2 with
          sessions := withSession (prepared amount address note g) s.now s.sessions },
        (client.answer .params l).2) := by
  have hlive : (s.generateNote amount).2.sessions.live? (s.generateNote amount).2.now
      (prepared amount address note g).groupId = none := hfree
  unfold prepareDeposit
  dsimp only
  rw [if_neg hmin, Flow.run_act, hnote]
  dsimp only
  rw [Flow.run_ask, hparams]
  dsimp only
  rw [hbuilt, Flow.run_act]
  simp only [State.storeSession, Sessions.store, hlive]
  rfl

theorem live?_withSession (d : PreparedDeposit) (now : Nat) {sessions : Sessions PreparedDeposit}
    (httl : 0 < sessions.ttl) :
    (withSession d now sessions).live? now d.groupId =
      (withSession d now sessions).find? d.groupId := by
  have hfind : (withSession d now sessions).find? d.groupId = some ⟨d, now⟩ :=
    List.lookup_cons_self
  have hfresh : ¬ Sessions.isExpired sessions.ttl now (⟨d, now⟩ : Session PreparedDeposit) := by
    intro hexpired
    have hage : sessions.ttl ≤ now - now := of_decide_eq_true hexpired
    omega
  rw [Sessions.live?, hfind]
  exact if_neg hfresh

end Preparing

section Wallet

variable {σ : Type} {client : Ledger.Client σ} {c : Settings} {amount : UInt64} {address : Address}
  {s s' : State} {l l' : σ}

def walletBytes (sig raw : Bytes) : Bytes :=
  Ledger.MessagePack.record [("sig", Ledger.MessagePack.blob sig), ("txn", raw)]

def walletForm (t : DepositTicket) (address : Address) (sig raw : Bytes) : DepositForm :=
  ⟨t.amount.units, address, t.noteText, Text.Base64.encode (walletBytes sig raw)⟩

def Carries (t : DepositTicket) (wallet : Bytes) (watch : String) (submitted : Bytes) : Prop :=
  ∃ first payment rest, decodeGroup submitted = .ok (first :: payment :: rest) ∧
    (first :: payment :: rest).map (fun member => encodeTxn member.txn) = t.txns ∧
    submitted = first.encode ++ wallet ++ encodeGroup rest ∧ first.txn.id = watch

def signedGroup (c : Settings) (d : PreparedDeposit) (payment : Transaction) (sig : Bytes) :
    List SignedTransaction :=
  (c.builder.authorizeProgram d.txns).set Protocol.paymentIndex ⟨payment, .signature sig⟩

variable {t : DepositTicket} {d : PreparedDeposit} {sig : Bytes}

structure Members (d : PreparedDeposit) (call payment : Transaction) (rest : List Transaction) :
    Prop where
  txns : d.txns = call :: payment :: rest
  watch : d.watch = call.id
  readable : ∀ x ∈ d.txns, x.Readable
  grouped : ∀ x ∈ d.txns, x.group = some d.groupId

theorem Issues.members (h : Issues client c amount address l t s d)
    (hgenesis : ∀ params, (client.answer .params l).1 = .ok params →
      (Text.utf8 params.genesisId).length < sizeLimit)
    (hid : t.groupId ≠ .zero) : ∃ call payment rest, Members d call payment rest := by
  obtain ⟨params, note, g, hparams, hbuilt, rfl⟩ := h.built
  rw [h.given] at hid
  obtain ⟨⟨call, payment, rest, htxns, hwatch⟩, hreadable⟩ :=
    Ledger.Builder.deposit_members hbuilt (hgenesis params hparams) hid
  exact ⟨call, payment, rest, htxns, hwatch, hreadable, Ledger.Builder.deposit_ok hbuilt⟩

variable {call payment : Transaction} {rest : List Transaction}

theorem Issues.authorizes (h : Issues client c amount address l t s d)
    (hm : Members d call payment rest) (hsig : sig ≠ []) (raw : Bytes) :
    authorize c (walletForm t address sig raw) ⟨payment, .signature sig⟩ d =
      .ok (signedGroup c d payment sig) := by
  have hpayment : d.txns[Protocol.paymentIndex]? = some payment := by
    rw [hm.txns]
    rfl
  have haddress : d.address = address := by
    obtain ⟨params, note, g, -, -, rfl⟩ := h.built
    rfl
  obtain rfl := h.given
  have hnote : Note.text { amount := d.note.amount, k := d.note.k, r := d.note.r } = d.note.text :=
    Note.text_eq_iff.mpr ⟨rfl, rfl, rfl⟩
  exact authorize_of (Note.parse_text d.note) hnote rfl haddress.symm
    (c.builder.authorizeDeposit_of hpayment hsig)

theorem walletForm_signedTxn (t : DepositTicket) (address : Address) (sig : Bytes)
    (payment : Transaction) : (walletForm t address sig payment.encode).signedTxn =
      encodeSigned ⟨payment, .signature sig⟩ := rfl

theorem Issues.approves (h : Issues client c amount address l t s d)
    (hm : Members d call payment rest) (hsig : sig.length = SignedTransaction.signatureSize)
    {later : State}
    (hlive : later.sessions.live? later.now t.groupId = s.sessions.find? t.groupId) :
    Approves c (walletForm t address sig payment.encode) later ⟨payment, .signature sig⟩ d
      (signedGroup c d payment sig) := by
  have hmem : payment ∈ d.txns := by
    rw [hm.txns]
    exact .tail _ (.head _)
  have hne : sig ≠ [] := by
    rintro rfl
    cases hsig
  have hsame : t.groupId = d.groupId := by
    rw [h.given]
    rfl
  obtain ⟨now, hstored⟩ := h.stored
  rw [hstored] at hlive
  refine ⟨?_, ⟨t.groupId, ?_, ?_⟩, h.authorizes hm hne payment.encode⟩
  · rw [walletForm_signedTxn]
    exact decodeSigned_encodeSigned ⟨hm.readable payment hmem, hsig⟩
  · rw [hm.grouped payment hmem, hsame]
  · rw [Sessions.retrieve, hlive]

theorem Members.signedGroup_eq (hm : Members d call payment rest) (sig : Bytes) :
    signedGroup c d payment sig = ⟨call, .program c.builder.pool.verifierProgram⟩ ::
      ⟨payment, .signature sig⟩ :: c.builder.authorizeProgram rest := by
  rw [signedGroup, hm.txns]
  rfl

theorem Members.signedGroup_readable (hm : Members d call payment rest)
    (hsig : sig.length = SignedTransaction.signatureSize)
    (hprogram : c.builder.pool.verifierProgram.length < sizeLimit) :
    ∀ member ∈ signedGroup c d payment sig, member.Readable := by
  have hreadable : ∀ x ∈ call :: payment :: rest, x.Readable := hm.txns ▸ hm.readable
  rw [hm.signedGroup_eq]
  intro member hmember
  rcases List.mem_cons.mp hmember with rfl | hmember
  · exact ⟨hreadable call (.head _), hprogram⟩
  rcases List.mem_cons.mp hmember with rfl | hmember
  · exact ⟨hreadable payment (.tail _ (.head _)), hsig⟩
  · obtain ⟨x, hx, rfl⟩ := List.mem_map.mp hmember
    exact ⟨hreadable x (.tail _ (.tail _ hx)), hprogram⟩

theorem Members.carries (hm : Members d call payment rest)
    (hsig : sig.length = SignedTransaction.signatureSize)
    (hprogram : c.builder.pool.verifierProgram.length < sizeLimit) :
    Carries (ticket d) (walletBytes sig payment.encode) d.watch
      (encodeGroup (signedGroup c d payment sig)) := by
  have hdecoded := Ledger.decodeGroup_eq_ok_iff.mpr ⟨rfl, hm.signedGroup_readable hsig hprogram⟩
  have htxns : (c.builder.authorizeProgram rest).map (fun member => encodeTxn member.txn) =
      rest.map encodeTxn := by
    rw [Ledger.Builder.authorizeProgram, List.map_map]
    rfl
  rw [hm.signedGroup_eq] at hdecoded ⊢
  refine ⟨_, _, _, hdecoded, ?_, ?_, hm.watch.symm⟩
  · rw [ticket, hm.txns, List.map_cons, List.map_cons, htxns]
    rfl
  · rw [Ledger.encodeGroup_cons, Ledger.encodeGroup_cons, List.append_assoc]
    rfl

theorem wallet_deposit_goes_through {τ : Type} (node : Ledger.Client τ) (m : τ) {later : State}
    (hrun : (prepareDeposit c amount address).run client s l = (.ok t, s', l'))
    (hgenesis : ∀ params, (client.answer .params l).1 = .ok params →
      (Text.utf8 params.genesisId).length < sizeLimit)
    (hprogram : c.builder.pool.verifierProgram.length < sizeLimit)
    (hsig : sig.length = SignedTransaction.signatureSize)
    (hlive : later.sessions.live? later.now t.groupId = s'.sessions.find? t.groupId) :
    t.groupId = .zero ∨
      ∃ text raw signed d group, t.txns[Protocol.paymentIndex]? = some text ∧
        Text.Base64.decode? text.toList = some raw ∧
        Approves c (walletForm t address sig raw) later signed d group ∧
        ∀ id registered,
          (later.takeSession t.groupId).2.register d.note = (.ok id, registered) →
            ∃ row sub, row.id = id ∧
              Submits node c.waitRounds (confirmDeposit c (walletForm t address sig raw)) later m
                d.note d.watch group row registered m ∧
              (confirmDeposit c (walletForm t address sig raw)).submissions node later m = [sub] ∧
              Carries t (walletBytes sig raw) d.watch sub.group := by
  by_cases hid : t.groupId = .zero
  · exact .inl hid
  refine .inr ?_
  obtain ⟨d, hissues⟩ := prepareDeposit_ok hrun
  obtain ⟨call, payment, rest, hm⟩ := hissues.members hgenesis hid
  have happroves := hissues.approves hm hsig hlive
  have htext : t.txns[Protocol.paymentIndex]? = some (encodeTxn payment) := by
    rw [hissues.given, ticket, hm.txns]
    rfl
  have hraw : Text.Base64.decode? (encodeTxn payment).toList = some payment.encode := by
    rw [encodeTxn, Text.Base64.toList_encode, Text.Base64.decode?_encodeList]
  refine ⟨_, _, _, d, _, htext, hraw, happroves, fun id registered hregister => ?_⟩
  have hkey : payment.group = some t.groupId := by
    rw [hm.grouped payment (hm.txns ▸ .tail _ (.head _)), hissues.given]
    rfl
  obtain ⟨row, hrow, hsubmits⟩ := happroves.submits t.groupId hkey hregister
  refine ⟨row, _, hrow, hsubmits, hsubmits.submissions, ?_⟩
  rw [hissues.given]
  exact hm.carries hsig hprogram

end Wallet

namespace FreshTicket

def settings : Settings :=
  { builder := { pool := ⟨1, ⟨Block.zero 32⟩, ⟨Block.zero 32⟩, [6, 129, 1]⟩ } }

def params : Ledger.ChainParams := ⟨0, 1000, 1, 1001, "", Block.zero 32⟩

def client : Ledger.Client Unit where
  answer q l := match q with
    | .params => (.ok params, l)
    | q => (q.failure (.transport none), l)

def state : State where
  store := { vault := ⟨Block.zero 32⟩ }
  sessions := { ttl := 60 }
  source := { stream := fun _ => 0, fails := fun _ => false, position := 0, draws := 0 }
  now := 0

def note : Note := { amount := 1000000, k := state.source.read 31, r := state.source.read 31 }

theorem generateNote_state : (state.generateNote 1000000).1 = .ok note := rfl

theorem exists_prepared : ∃ d s',
    (prepareDeposit settings 1000000 ⟨Block.zero 32⟩).run client state () =
        (.ok (ticket d), s', ()) ∧
      s'.now = 0 ∧ s'.sessions = withSession d 0 state.sessions := by
  have hfee : checkedMul settings.builder.config.depositFeeMultiplier params.minFee =
      some 56000 := by decide
  have hcheck : settings.builder.checkDeposit 1000000 note = .ok () := rfl
  obtain ⟨g, hg⟩ := Ledger.Builder.deposit_of ⟨Block.zero 32⟩ hcheck hfee
  exact ⟨_, _, prepareDeposit_of (by decide) generateNote_state rfl hg rfl, rfl, rfl⟩

def signature : Bytes := List.replicate 64 0

theorem fresh_ticket_goes_through : ∃ t s',
    (prepareDeposit settings 1000000 ⟨Block.zero 32⟩).run client state () = (.ok t, s', ()) ∧
      (t.groupId = .zero ∨
        ∃ text raw signed d group, t.txns[Protocol.paymentIndex]? = some text ∧
          Text.Base64.decode? text.toList = some raw ∧
          Approves settings (walletForm t ⟨Block.zero 32⟩ signature raw) s' signed d group) := by
  have hgenesis : ∀ p, (client.answer .params ()).1 = .ok p →
      (Text.utf8 p.genesisId).length < sizeLimit := by
    intro p hp
    cases hp
    decide
  have hprogram : settings.builder.pool.verifierProgram.length < sizeLimit := by decide
  have hsig : signature.length = SignedTransaction.signatureSize := by decide
  obtain ⟨d, s', hrun, hnow, hsessions⟩ := exists_prepared
  have httl : 0 < state.sessions.ttl := by decide
  have hlive : s'.sessions.live? s'.now (ticket d).groupId =
      s'.sessions.find? (ticket d).groupId := by
    rw [hnow, hsessions]
    exact live?_withSession d 0 httl
  refine ⟨_, s', hrun, ?_⟩
  rcases wallet_deposit_goes_through client () hrun hgenesis hprogram hsig hlive with
    hzero | ⟨text, raw, signed, d', group, htext, hraw, happroves, -⟩
  · exact .inl hzero
  · exact .inr ⟨text, raw, signed, d', group, htext, hraw, happroves⟩

end FreshTicket

end ShieldedPool.Pool
