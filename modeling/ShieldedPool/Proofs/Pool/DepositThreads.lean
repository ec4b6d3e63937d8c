import ShieldedPool.Proofs.Ledger.Builder
import ShieldedPool.Proofs.Note.Text
import ShieldedPool.Proofs.Pool.Interleaving
import ShieldedPool.Proofs.Pool.Requests

namespace ShieldedPool.Pool

open Ledger (GroupId SignedTransaction encodeGroup)

def DepositForm.groupId? (form : DepositForm) : Option GroupId :=
  match decodeSigned form.signedTxn with
  | .ok signed => signed.txn.group
  | .error _ => none

def PreparedBy (c : Settings) (amount : UInt64) (address : Address) (d : PreparedDeposit) : Prop :=
  ∃ note params g, c.builder.deposit amount address note params = .ok g ∧
    d = prepared amount address note g

def Stored (c : Settings) (log : List Event) (d : PreparedDeposit) : Prop :=
  ∃ amount address sessions session, .prepared amount address (ticket d) sessions ∈ log ∧
    (d.groupId, session) ∈ sessions.entries ∧ session.data = d ∧ PreparedBy c amount address d

structure Justified (c : Settings) (log : List Event) (form : DepositForm) (d : PreparedDeposit)
    (members : List SignedTransaction) : Prop where
  stored : Stored c log d
  named : form.groupId? = some d.groupId
  grouped : ∀ t ∈ d.txns, t.group = some d.groupId
  authorized : ∃ signed sig, decodeSigned form.signedTxn = .ok signed ∧
    signed.auth = .signature sig ∧ sig.length = SignedTransaction.signatureSize ∧
    c.builder.Authorizes d.txns Protocol.paymentIndex sig members
  amount : form.amount = d.amount.units
  address : form.address = d.address
  note : ∃ n, Note.parse form.noteText = .ok n ∧ n.amount = d.note.amount ∧ n.k = d.note.k ∧
    n.r = d.note.r

section Checks

theorem decodeSigned_signature {text : String} {signed : SignedTransaction}
    (h : decodeSigned text = .ok signed) {sig : Bytes} (hauth : signed.auth = .signature sig) :
    sig.length = SignedTransaction.signatureSize := by
  have hreadable := (decodeSigned_eq_ok_iff.mp h).2.auth
  rw [hauth] at hreadable
  exact hreadable

theorem authorize_ok {c : Settings} {form : DepositForm} {signed : SignedTransaction}
    {d : PreparedDeposit} {group : List SignedTransaction}
    (h : authorize c form signed d = .ok group) :
    (∃ n, Note.parse form.noteText = .ok n ∧ n.amount = d.note.amount ∧ n.k = d.note.k ∧
        n.r = d.note.r) ∧
      form.amount = d.amount.units ∧ form.address = d.address ∧
      c.builder.authorizeDeposit d.txns signed = .ok group := by
  unfold authorize at h
  split at h
  · cases h
  case h_2 n hparse =>
    split at h
    · cases h
    case isFalse hsame =>
      obtain ⟨hamount, hrest⟩ := not_or.mp hsame
      obtain ⟨haddress, htext⟩ := not_or.mp hrest
      cases hgroup : c.builder.authorizeDeposit d.txns signed with
      | error e => rw [hgroup] at h; cases h
      | ok group =>
        rw [hgroup] at h
        cases h
        exact ⟨⟨n, hparse, Note.text_eq_iff.mp (Decidable.not_not.mp htext)⟩,
          Decidable.not_not.mp hamount, Decidable.not_not.mp haddress, rfl⟩

theorem authorize_of {c : Settings} {form : DepositForm} {signed : SignedTransaction}
    {d : PreparedDeposit} {group : List SignedTransaction} {n : Note}
    (hparse : Note.parse form.noteText = .ok n) (hnote : n.text = d.note.text)
    (hamount : form.amount = d.amount.units) (haddress : form.address = d.address)
    (hgroup : c.builder.authorizeDeposit d.txns signed = .ok group) :
    authorize c form signed d = .ok group := by
  unfold authorize
  rw [hparse]
  dsimp only
  rw [if_neg (by simp [hnote, hamount, haddress]), hgroup]

theorem PreparedBy.grouped {c : Settings} {amount : UInt64} {address : Address}
    {d : PreparedDeposit} (h : PreparedBy c amount address d) :
    ∀ t ∈ d.txns, t.group = some d.groupId := by
  obtain ⟨note, params, g, hbuilt, rfl⟩ := h
  exact Ledger.Builder.deposit_ok hbuilt

theorem Stored.grouped {c : Settings} {log : List Event} {d : PreparedDeposit}
    (h : Stored c log d) : ∀ t ∈ d.txns, t.group = some d.groupId := by
  obtain ⟨amount, address, sessions, session, -, -, -, hprepared⟩ := h
  exact hprepared.grouped

theorem justified_of_authorize {c : Settings} {log : List Event} {form : DepositForm}
    {signed : SignedTransaction} {d : PreparedDeposit} {group : List SignedTransaction}
    (hstored : Stored c log d) (hdecoded : decodeSigned form.signedTxn = .ok signed)
    (hauth : authorize c form signed d = .ok group) : Justified c log form d group := by
  obtain ⟨hnote, hamount, haddress, hgroup⟩ := authorize_ok hauth
  obtain ⟨hpayment, sig, hsig, hall⟩ := Ledger.Builder.authorizeDeposit_ok hgroup
  have hgroup := hstored.grouped signed.txn (List.mem_of_getElem? hpayment)
  refine ⟨hstored, ?_, hstored.grouped, ⟨signed, sig, hdecoded, hsig, ?_, hall⟩, hamount,
    haddress, hnote⟩
  · rw [DepositForm.groupId?, hdecoded]
    exact hgroup
  · exact decodeSigned_signature hdecoded hsig

theorem Stored.mono {c : Settings} {log log' : List Event} {d : PreparedDeposit}
    (h : Stored c log d) (hlog : log ⊆ log') : Stored c log' d := by
  obtain ⟨amount, address, sessions, session, hevent, hrest⟩ := h
  exact ⟨amount, address, sessions, session, hlog hevent, hrest⟩

theorem Justified.mono {c : Settings} {log log' : List Event} {form : DepositForm}
    {d : PreparedDeposit} {members : List SignedTransaction}
    (h : Justified c log form d members) (hlog : log ⊆ log') :
    Justified c log' form d members :=
  ⟨h.stored.mono hlog, h.named, h.grouped, h.authorized, h.amount, h.address, h.note⟩

end Checks

section Threads

def storing (d : PreparedDeposit) : Action DepositTicket :=
  .act (State.storeSession d) fun stored =>
    match stored with
    | .error e => .done (.error (.session e))
    | .ok _ => .done (.ok (ticket d))

def building (c : Settings) (amount : UInt64) (address : Address) (note : Note) :
    Action DepositTicket :=
  .ask .params fun reply =>
    match reply with
    | .error e => .done (.error (.ledger e))
    | .ok params =>
      match c.builder.deposit amount address note params with
      | .error e => .done (.error (.build e))
      | .ok group => storing (prepared amount address note group)

def choosing (c : Settings) (amount : UInt64) (address : Address) :
    Except NoteError Note → Action DepositTicket
  | .error e => .done (.error (noteError e))
  | .ok note => building c amount address note

theorem prepareDeposit_shape (c : Settings) (amount : UInt64) (address : Address) :
    (∃ e, prepareDeposit c amount address = .done (.error e)) ∨
      prepareDeposit c amount address =
        .act (State.generateNote amount) (choosing c amount address) := by
  unfold prepareDeposit
  dsimp only
  split
  · exact .inl ⟨_, rfl⟩
  · exact .inr (by congr)

def registering (c : Settings) (d : PreparedDeposit) (group : List SignedTransaction) :
    Action DepositReceipt :=
  .act (State.register d.note) fun registered =>
    match registered with
    | .error e => .done (.error (.store e))
    | .ok id => submitDeposit c d group id

def checking (c : Settings) (form : DepositForm) (signed : SignedTransaction) :
    Except SessionError PreparedDeposit → Action DepositReceipt
  | .error e => .done (.error (.session e))
  | .ok d =>
    match authorize c form signed d with
    | .error e => .done (.error e)
    | .ok group => registering c d group

theorem confirmDeposit_shape (c : Settings) (form : DepositForm) :
    (∃ e, confirmDeposit c form = .done (.error e)) ∨
      ∃ signed key, decodeSigned form.signedTxn = .ok signed ∧ signed.txn.group = some key ∧
        confirmDeposit c form = .act (State.takeSession key) (checking c form signed) := by
  unfold confirmDeposit
  cases hsigned : decodeSigned form.signedTxn with
  | error e => exact .inl ⟨e, rfl⟩
  | ok signed =>
    dsimp only
    cases hkey : signed.txn.group with
    | none => exact .inl ⟨_, rfl⟩
    | some key =>
      exact .inr ⟨signed, key, rfl, hkey, by congr⟩

inductive Preparing (c : Settings) (amount : UInt64) (address : Address) :
    Action DepositTicket → Prop where
  | fresh : Preparing c amount address (prepareDeposit c amount address)
  | building (note : Note) : Preparing c amount address (building c amount address note)
  | storing (d : PreparedDeposit) (h : PreparedBy c amount address d) :
    Preparing c amount address (storing d)
  | ended (r : Except PoolError DepositTicket) : Preparing c amount address (.done r)

inductive Confirming (c : Settings) (log : List Event) (form : DepositForm) :
    Action DepositReceipt → Option GroupId → Prop where
  | fresh : Confirming c log form (confirmDeposit c form) none
  | registering (d : PreparedDeposit) (group : List SignedTransaction)
    (h : Justified c log form d group) :
    Confirming c log form (registering c d group) (some d.groupId)
  | submitting (d : PreparedDeposit) (group : List SignedTransaction) (id : Int)
    (h : Justified c log form d group) :
    Confirming c log form (submitDeposit c d group id) (some d.groupId)
  | ended (rest : Action DepositReceipt)
    (h : rest.Every KeepsSessions fun _ q => q.isSubmit = false) :
    Confirming c log form rest none

inductive Runs (c : Settings) (log : List Event) : Thread → Option GroupId → Prop where
  | preparing (amount : UInt64) (address : Address) (rest : Action DepositTicket)
    (h : Preparing c amount address rest) : Runs c log (.preparing amount address rest) none
  | confirming (form : DepositForm) (rest : Action DepositReceipt) (held : Option GroupId)
    (h : Confirming c log form rest held) : Runs c log (.confirming form rest) held

def withSession (d : PreparedDeposit) (now : Nat) (t : Sessions PreparedDeposit) :
    Sessions PreparedDeposit :=
  { t with entries := (d.groupId, ⟨d, now⟩) :: (t.delete d.groupId).entries }

inductive Effect (c : Settings) (log : List Event) (t : Sessions PreparedDeposit) :
    Sessions PreparedDeposit → List Event → Option GroupId → Option GroupId → Prop where
  | quiet (held : Option GroupId) : Effect c log t t [] held held
  | stored (amount : UInt64) (address : Address) (d : PreparedDeposit) (now : Nat)
    (h : PreparedBy c amount address d) :
    Effect c log t (withSession d now t)
      [.prepared amount address (ticket d) (withSession d now t)] none none
  | dropped (key : GroupId) : Effect c log t (t.delete key) [] none none
  | taken (key : GroupId) (h : ∃ e ∈ t.entries, e.1 = key) :
    Effect c log t (t.delete key) [] none (some key)
  | forfeited (key : GroupId) : Effect c log t t [] (some key) none
  | submitted (form : DepositForm) (d : PreparedDeposit) (members : List SignedTransaction)
    (h : Justified c log form d members) :
    Effect c log t t [.submitted (.confirm form) (encodeGroup members)] (some d.groupId) none

theorem Confirming.mono {c : Settings} {log log' : List Event} {form : DepositForm}
    {rest : Action DepositReceipt} {held : Option GroupId} (h : Confirming c log form rest held)
    (hlog : log ⊆ log') : Confirming c log' form rest held := by
  cases h with
  | fresh => exact .fresh
  | registering d group h => exact .registering d group (h.mono hlog)
  | submitting d group id h => exact .submitting d group id (h.mono hlog)
  | ended rest h => exact .ended rest h

theorem Runs.mono {c : Settings} {log log' : List Event} {thread : Thread}
    {held : Option GroupId} (h : Runs c log thread held) (hlog : log ⊆ log') :
    Runs c log' thread held := by
  cases h with
  | preparing amount address rest h => exact .preparing amount address rest h
  | confirming form rest held h => exact .confirming form rest held (h.mono hlog)

theorem handed_eq_nil (request : Request) {α : Type} {q : Ledger.Query α}
    (h : q.isSubmit = false) : handed request q = [] := by
  cases q <;> first | rfl | cases h

def Keyed (c : Settings) (log : List Event) (t : Sessions PreparedDeposit) : Prop :=
  ∀ e ∈ t.entries, e.2.data.groupId = e.1 ∧ Stored c log e.2.data

def Steps (c : Settings) (log : List Event) (replies : Replies) (s : State) (thread : Thread)
    (held : Option GroupId) : Prop :=
  ∃ held', Effect c log s.sessions (thread.advance replies s).2.1.sessions
      (thread.advance replies s).2.2 held held' ∧
    Runs c ((thread.advance replies s).2.2 ++ log) (thread.advance replies s).1 held'

variable {c : Settings} {log : List Event} {s : State} (replies : Replies)

theorem steps_of_advance {thread thread' : Thread} {s' : State} {es : List Event}
    {held held' : Option GroupId} (h : thread.advance replies s = (thread', s', es))
    (heffect : Effect c log s.sessions s'.sessions es held held')
    (hruns : Runs c (es ++ log) thread' held') : Steps c log replies s thread held :=
  ⟨held', by rw [h]; exact heffect, by rw [h]; exact hruns⟩

theorem storing_steps {amount : UInt64} {address : Address} {d : PreparedDeposit}
    (h : PreparedBy c amount address d) :
    Steps c log replies s (.preparing amount address (storing d)) none := by
  cases hlive : s.sessions.live? s.now d.groupId with
  | some session =>
    have hstore : s.storeSession d = (.error .alreadyExists, s) := by
      simp only [State.storeSession, Sessions.store, hlive]
    have hadvance : (Thread.preparing amount address (storing d)).advance replies s =
        (.preparing amount address (.done (.error (.session .alreadyExists))), s, []) := by
      simp only [Thread.advance, storing, hstore, announced]
    exact steps_of_advance replies hadvance (.quiet none) (.preparing amount address _ (.ended _))
  | none =>
    have hstore : s.storeSession d = (.ok d.groupId, { s with
        sessions := withSession d s.now s.sessions }) := by
      simp only [State.storeSession, Sessions.store, hlive]
      rfl
    have hadvance : (Thread.preparing amount address (storing d)).advance replies s =
        (.preparing amount address (.done (.ok (ticket d))),
          { s with sessions := withSession d s.now s.sessions },
          [.prepared amount address (ticket d) (withSession d s.now s.sessions)]) := by
      simp only [Thread.advance, storing, hstore, announced]
    exact steps_of_advance replies hadvance (.stored amount address d s.now h)
      (.preparing amount address _ (.ended _))

theorem choosing_steps {amount : UInt64} {address : Address} :
    Steps c log replies s
      (.preparing amount address (.act (State.generateNote amount) (choosing c amount address)))
      none := by
  cases hnote : (s.generateNote amount).1 with
  | error e =>
    have hadvance : (Thread.preparing amount address (.act (State.generateNote amount)
        (choosing c amount address))).advance replies s =
        (.preparing amount address (.done (.error (noteError e))),
          (s.generateNote amount).2, []) := by
      simp only [Thread.advance, hnote, choosing, announced]
    exact steps_of_advance replies hadvance (.quiet none) (.preparing amount address _ (.ended _))
  | ok note =>
    have hadvance : (Thread.preparing amount address (.act (State.generateNote amount)
        (choosing c amount address))).advance replies s =
        (.preparing amount address (building c amount address note),
          (s.generateNote amount).2, []) := by
      simp only [Thread.advance, hnote, choosing, building, announced]
    exact steps_of_advance replies hadvance (.quiet none)
      (.preparing amount address _ (.building note))

theorem preparing_steps {amount : UInt64} {address : Address} {rest : Action DepositTicket}
    (h : Preparing c amount address rest) :
    Steps c log replies s (.preparing amount address rest) none := by
  cases h with
  | fresh =>
    rcases prepareDeposit_shape c amount address with ⟨e, heq⟩ | heq
    · rw [heq]
      exact ⟨none, .quiet none, .preparing amount address _ (.ended _)⟩
    · rw [heq]
      exact choosing_steps replies
  | building note =>
    refine ⟨none, .quiet none, .preparing amount address _ ?_⟩
    dsimp only
    cases replies.reply .params with
    | error e => exact .ended _
    | ok params =>
      dsimp only
      cases hbuilt : c.builder.deposit amount address note params with
      | error e => exact .ended _
      | ok group => exact .storing _ ⟨note, params, group, hbuilt, rfl⟩
  | storing d hd => exact storing_steps replies hd
  | ended r => exact ⟨none, .quiet none, .preparing amount address _ (.ended r)⟩

theorem ended_steps {form : DepositForm} {rest : Action DepositReceipt}
    (h : rest.Every KeepsSessions fun _ q => q.isSubmit = false) :
    Steps c log replies s (.confirming form rest) none := by
  cases rest with
  | done r => exact ⟨none, .quiet none, .confirming form _ none (.ended _ trivial)⟩
  | act step next =>
    have hsessions : (step s).2.sessions = s.sessions := h.1 s
    refine ⟨none, ?_, .confirming form _ none (.ended _ (h.2 _))⟩
    simp only [Thread.advance, hsessions]
    exact .quiet none
  | ask query next =>
    refine ⟨none, ?_, .confirming form _ none (.ended _ (h.2 _))⟩
    simp only [Thread.advance, handed_eq_nil _ h.1]
    exact .quiet none

theorem mem_of_retrieve {t : Sessions PreparedDeposit} {now : Nat} {key : GroupId}
    {d : PreparedDeposit} (h : t.retrieve now key = .ok d) :
    ∃ session, (key, session) ∈ t.entries ∧ session.data = d := by
  unfold Sessions.retrieve Sessions.live? Sessions.find? at h
  cases hfind : t.entries.lookup key with
  | none => rw [hfind] at h; cases h
  | some session =>
    rw [hfind] at h
    dsimp only at h
    split at h
    case h_1 found heq =>
      split at heq
      · cases heq
      · cases heq
        cases h
        obtain ⟨before, after, hentries, -⟩ := List.lookup_eq_some_iff.mp hfind
        refine ⟨session, ?_, rfl⟩
        rw [hentries]
        exact List.mem_append_right before (List.mem_cons_self ..)
    case h_2 => cases h

theorem advance_taking (c : Settings) (form : DepositForm) (signed : SignedTransaction)
    (replies : Replies) {key : GroupId} {r : Except SessionError PreparedDeposit}
    (h : s.sessions.retrieve s.now key = r) :
    (Thread.confirming form (.act (State.takeSession key) (checking c form signed))).advance
        replies s =
      (.confirming form (checking c form signed r),
        { s with sessions := s.sessions.delete key }, []) := by
  rw [← h]
  rfl

theorem taking_steps {form : DepositForm} (hkeyed : Keyed c log s.sessions) :
    Steps c log replies s (.confirming form (confirmDeposit c form)) none := by
  rcases confirmDeposit_shape c form with ⟨e, heq⟩ | ⟨signed, key, hsigned, hkey, heq⟩
  · rw [heq]
    exact ended_steps replies trivial
  · rw [heq]
    cases ht : s.sessions.retrieve s.now key with
    | error e =>
      exact steps_of_advance replies (advance_taking c form signed replies ht) (.dropped key)
        (.confirming form _ none (.ended _ trivial))
    | ok d =>
      obtain ⟨session, hmem, rfl⟩ := mem_of_retrieve ht
      obtain ⟨hid, hstored⟩ := hkeyed (key, session) hmem
      have hadvance := advance_taking c form signed replies ht
      -- The session is gone either way; only a form that fits it may still submit.
      cases hauth : authorize c form signed session.data with
      | error e =>
        have hchecking : checking c form signed (.ok session.data) = .done (.error e) := by
          simp only [checking, hauth]
        rw [hchecking] at hadvance
        exact steps_of_advance replies hadvance (.dropped key)
          (.confirming form _ none (.ended _ trivial))
      | ok group =>
        have hchecking : checking c form signed (.ok session.data) =
            registering c session.data group := by
          simp only [checking, hauth]
        have hrest := Confirming.registering session.data group
          (justified_of_authorize hstored hsigned hauth)
        rw [hid] at hrest
        rw [hchecking] at hadvance
        exact steps_of_advance replies hadvance (.taken key ⟨(key, session), hmem, rfl⟩)
          (.confirming form _ (some key) hrest)

theorem registering_steps {form : DepositForm} {d : PreparedDeposit}
    {group : List SignedTransaction} (h : Justified c log form d group) :
    Steps c log replies s (.confirming form (registering c d group)) (some d.groupId) := by
  have hsessions : (s.register d.note).2.sessions = s.sessions := rfl
  cases hr : (s.register d.note).1 with
  | error e =>
    have hadvance : (Thread.confirming form (registering c d group)).advance replies s =
        (.confirming form (.done (.error (.store e))), (s.register d.note).2, []) := by
      simp only [Thread.advance, registering, hr]
    refine steps_of_advance replies hadvance ?_ (.confirming form _ none (.ended _ trivial))
    rw [hsessions]
    exact .forfeited d.groupId
  | ok id =>
    have hadvance : (Thread.confirming form (registering c d group)).advance replies s =
        (.confirming form (submitDeposit c d group id), (s.register d.note).2, []) := by
      simp only [Thread.advance, registering, hr]
    refine steps_of_advance replies hadvance ?_ (.confirming form _ _ (.submitting d group id h))
    rw [hsessions]
    exact .quiet (some d.groupId)

theorem submitting_steps {form : DepositForm} {d : PreparedDeposit}
    {group : List SignedTransaction} {id : Int} (h : Justified c log form d group) :
    Steps c log replies s (.confirming form (submitDeposit c d group id)) (some d.groupId) := by
  have hdelete : KeepsSessions _ (State.deleteUnconfirmed id) := fun _ => rfl
  obtain ⟨next, heq, hevery⟩ := submission_shape d.note d.watch group c.waitRounds id
    (fun confirmed => (⟨confirmed.txnId, confirmed.leafIndex, d.amount⟩ : DepositReceipt))
    hdelete (fun _ _ => rfl) (affordable_every c d.address)
  rw [submitDeposit_eq, heq]
  exact ⟨none, .submitted form d group h, .confirming form _ none (.ended _ (hevery _))⟩

theorem runs_steps {thread : Thread} {held : Option GroupId} (hkeyed : Keyed c log s.sessions)
    (h : Runs c log thread held) : Steps c log replies s thread held := by
  cases h with
  | preparing amount address rest h => exact preparing_steps replies h
  | confirming form rest held h =>
    cases h with
    | fresh => exact taking_steps replies hkeyed
    | registering d group h => exact registering_steps replies h
    | submitting d group id h => exact submitting_steps replies h
    | ended rest h => exact ended_steps replies h

end Threads

end ShieldedPool.Pool
