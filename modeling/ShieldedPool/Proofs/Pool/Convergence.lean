import ShieldedPool.Proofs.Pool.Progress
import ShieldedPool.Proofs.Store.OnePass
import ShieldedPool.Proofs.Vault.Opening

namespace ShieldedPool.Pool

open Store (PendingRow NoteRow Registers Seals Reads Placed Gone held)

variable {α : Type}

def OthersOfNote (n : Note) (leaf : UInt64) (id : Int) (v : Scene α) (turn : Turn) : Prop :=
  ∀ r, Promotes v turn r leaf → r.id ≠ id → OfNote v.state.store.vault n r

def OnlyItself (leaf : UInt64) (id : Int) (v : Scene α) (turn : Turn) : Prop :=
  ∀ r, Promotes v turn r leaf → r.id = id

structure Allows (own : Prop) (n : Note) (leaf : UInt64) (id : Int) (v : Scene α) (turn : Turn) :
    Prop where
  note : OthersOfNote n leaf id v turn
  itself : own → OnlyItself leaf id v turn

theorem along_allows {own : Prop} {n : Note} {leaf : UInt64} {id : Int} {turns : List Turn}
    {v : Scene α} (hnote : Scene.Along (OthersOfNote n leaf id) turns v)
    (hitself : own → Scene.Along (OnlyItself leaf id) turns v) :
    Scene.Along (Allows own n leaf id) turns v := by
  induction turns generalizing v with
  | nil => trivial
  | cons turn turns ih =>
    exact ⟨⟨hnote.1, fun how => (hitself how).1⟩, ih hnote.2 fun how => (hitself how).2⟩

section Before

variable {leaf : α → UInt64} {P : PendingRow → Prop} {v : Scene α} {turn : Turn}
  {turns : List Turn}

theorem fails_next (h : Fails v.request) (turn : Turn) : Fails (v.next turn).request :=
  next_request (fun _ _ h b => h b) (fun _ _ h b => h b) h turn

theorem fails_play (h : Fails v.request) (turns : List Turn) :
    Fails (v.play turns).request := by
  induction turns generalizing v with
  | nil => exact h
  | cons turn turns ih => exact ih (fails_next h turn)

theorem not_fails {r : α} (hend : (v.play turns).request = .done (.ok r)) : ¬ Fails v.request := by
  intro h
  have hfails := fails_play h turns
  rw [hend] at hfails
  obtain ⟨e, he⟩ := hfails
  cases he

def Idle (v : Scene α) (turn : Turn) : Prop :=
  turn.IsRequest → (v.next turn).state.store = v.state.store ∧
    (v.next turn).state.source = v.state.source ∧ (v.next turn).sweeps = v.sweeps

theorem Confirms.exists_registering (h : Confirms leaf v.request) {r : α}
    (hend : (v.play turns).request = .done (.ok r)) :
    ∃ before replies after note rest, turns = before ++ .request replies :: after ∧
      Scene.Along Idle before v ∧ (v.play before).request = .act (State.register note) rest ∧
        Registering leaf note rest := by
  induction turns generalizing v with
  | nil =>
    change v.request = .done (.ok r) at hend
    rw [hend] at h
    cases h with
    | fails hfails =>
      obtain ⟨e, he⟩ := hfails
      cases he
  | cons turn turns ih =>
    have hcons (hconfirms : Confirms leaf (v.next turn).request) (hidle : Idle v turn) :
        ∃ before replies after note rest,
          turn :: turns = before ++ .request replies :: after ∧ Scene.Along Idle before v ∧
            (v.play before).request = .act (State.register note) rest ∧
              Registering leaf note rest := by
      obtain ⟨before, replies, after, note, rest, hturns, halong, hrequest, hregistering⟩ :=
        ih hconfirms hend
      exact ⟨turn :: before, replies, after, note, rest, by rw [hturns, List.cons_append],
        ⟨hidle, halong⟩, hrequest, hregistering⟩
    by_cases hother : turn.IsRequest
    case neg =>
      refine hcons ?_ fun hrequest => absurd hrequest hother
      rwa [(next_other hother).1]
    case pos =>
      cases turn with
      | request replies =>
        generalize hrequest : v.request = p at h
        cases h with
        | fails hfails =>
          rw [← hrequest] at hfails
          exact absurd hfails (not_fails hend)
        | @act β step rest hstep hrest =>
          refine hcons ?_ fun _ => ?_
          · rw [next_act hrequest]
            exact hrest _
          · rw [next_act hrequest]
            exact ⟨(hstep v.state).1, (hstep v.state).2, rfl⟩
        | @ask β query rest hrest =>
          refine hcons ?_ fun _ => ?_
          · rw [next_ask hrequest]
            exact hrest _
          · rw [next_ask hrequest]
            exact ⟨rfl, rfl, rfl⟩
        | @registers note rest hregistering =>
          exact ⟨[], replies, turns, note, rest, rfl, trivial, hrequest, hregistering⟩
      | _ => exact hother.elim

structure Rests (P : PendingRow → Prop) (v v' : Scene α) : Prop where
  tended : Tended P v'
  shrinks : Shrinks v.state.store v'.state.store
  source : v'.state.source = v.state.source

theorem Idle.rests (h : Idle v turn) (hv : Tended P v) : Rests P v (v.next turn) := by
  by_cases hother : turn.IsRequest
  case neg => exact ⟨hv.next hother, hv.shrinks hother, (next_other hother).2⟩
  case pos =>
    obtain ⟨hstore, hsource, hsweeps⟩ := h hother
    refine ⟨⟨?_, ?_⟩, .of_eq hstore, hsource⟩
    · rw [hstore]
      exact hv.rows
    · rw [hsweeps]
      exact hv.sweeps

theorem rests_play (h : Scene.Along Idle turns v) (hv : Tended P v) :
    Rests P v (v.play turns) := by
  induction turns generalizing v with
  | nil => exact ⟨hv, .of_eq rfl, rfl⟩
  | cons turn turns ih =>
    have hfirst := h.1.rests hv
    have hrest := ih h.2 hfirst.tended
    exact ⟨hrest.tended, hfirst.shrinks.trans hrest.shrinks, hrest.source.trans hfirst.source⟩

theorem standing_before {own : Prop} {n : Note} {target : UInt64} {id last : Int}
    (h : Scene.Along Idle turns v) (hv : Tended (·.id ≤ last) v) (hlast : last < id)
    (hallows : Scene.Along (Allows own n target id) turns v)
    (hs : held target v.state.store = [] ∨ Placed n target v.state.store ∧ ¬ own) :
    held target (v.play turns).state.store = [] ∨
      Placed n target (v.play turns).state.store ∧ ¬ own := by
  induction turns generalizing v with
  | nil => exact hs
  | cons turn turns ih =>
    refine ih h.2 (h.1.rests hv).tended hallows.2 ?_
    by_cases hother : turn.IsRequest
    case pos => rwa [(h.1 hother).1]
    case neg =>
      have hne {r : UnconfirmedRecord} {row : PendingRow} (hrow : row.id ≤ last)
          (hread : Reads row r) : r.id ≠ id := by
        have hid := hread.id
        omega
      have hsteady := hv.steady hother fun r row hrow hread hturn =>
        hallows.1.note r hturn (hne hrow hread)
      rcases hs with hfree | ⟨hplaced, hown⟩
      · rcases hsteady.free hfree with hfree | ⟨hplaced, r, ⟨⟨row, hrow, hread⟩, hturn⟩, -⟩
        · exact .inl hfree
        · exact .inr ⟨hplaced, fun how => hne hrow hread (hallows.1.itself how r hturn)⟩
      · exact .inr ⟨hsteady.placed hplaced, hown⟩

end Before

section After

variable {leaf : α → UInt64} {target : UInt64} {own : Prop} {note : Note}
  {enquire : Ledger.Outcome → Flow State (Option Amount)} {receipt : Ledger.Confirmation → α}
  {s : Store} {row : PendingRow} {last : Int} {v : Scene α} {turn : Turn} {turns : List Turn}

structure Follows (leaf : α → UInt64) (target : UInt64) (own : Prop) (note : Note)
    (enquire : Ledger.Outcome → Flow State (Option Amount)) (receipt : Ledger.Confirmation → α)
    (key : Vault.PublicKey) (row : PendingRow) (last : Int) (v : Scene α) : Prop where
  tended : Tended (fun other => other.id ≤ last ∨ other = row) v
  vault : v.state.store.vault = key
  source : ∀ i, v.state.source.fails i = false
  progress : Progress leaf target own note row.id enquire receipt v.request v.state.store

theorem follows_registered {source : Random.Source} (watch : String)
    (group : List Ledger.SignedTransaction) (rounds : UInt64)
    (htended : Tended (fun other => other.id ≤ last ∨ other = row) v)
    (hsource : ∀ i, source.fails i = false)
    (hstanding : Standing own note target row.id (v.state.store.enrol row)) :
    Fails (submission note watch group rounds row.id enquire receipt) ∨
      Follows leaf target own note enquire receipt v.state.store.vault row last
        { v with
          state := { v.state with store := v.state.store.enrol row, source }
          request := submission note watch group rounds row.id enquire receipt } := by
  rcases progress_submission watch group rounds hstanding with hfails | hprogress
  · exact .inl hfails
  · refine .inr ⟨⟨?_, htended.sweeps⟩, rfl, hsource, hprogress⟩
    intro other ho
    rcases List.mem_append.mp ho with ho | ho
    · exact htended.rows other ho
    · exact .inr (List.mem_singleton.mp ho)

theorem Follows.other (h : Follows leaf target own note enquire receipt s.vault row last v)
    (hregisters : Registers s note row) (hlast : last < row.id) (hother : ¬ turn.IsRequest)
    (hallows : Allows own note target row.id v turn) :
    Follows leaf target own note enquire receipt s.vault row last (v.next turn) := by
  obtain ⟨hrequest, hsource⟩ := next_other (v := v) hother
  have hshrinks := h.tended.shrinks hother
  have hnote : ∀ r other, (other.id ≤ last ∨ other = row) → Reads other r →
      Promotes v turn r target → OfNote v.state.store.vault note r := by
    intro r other hrow hread hturn
    by_cases hid : r.id = row.id
    case neg => exact hallows.note r hturn hid
    case pos =>
      rcases hrow with hold | rfl
      · have hsame := hread.id
        omega
      · refine ⟨Block.eq_of_bytes_eq (hread.commitment.trans hregisters.commitment), ?_⟩
        rw [hread.nullifier, h.vault]
        exact hregisters.nullifier
  have hsteady := h.tended.steady hother hnote
  have hgone (hgone : Gone row.id v.state.store) : Gone row.id (v.next turn).state.store :=
    gone_of_subset hgone hshrinks.pending
  refine ⟨h.tended.next hother, hshrinks.vault.trans h.vault, ?_, ?_⟩
  · rw [hsource]
    exact h.source
  · rw [hrequest]
    refine h.progress.of_stores ?_ hsteady.placed hgone
    rintro (hfree | ⟨hplaced, howned⟩)
    · rcases hsteady.free hfree with hfree | ⟨hplaced, r, ⟨-, hturn⟩, hr⟩
      · exact .inl hfree
      · refine .inr ⟨hplaced, fun how => ?_⟩
        rw [← hallows.itself how r hturn]
        exact hr
    · exact .inr ⟨hsteady.placed hplaced, fun how => hgone (howned how)⟩

theorem Follows.request (h : Follows leaf target own note enquire receipt s.vault row last v)
    (hregisters : Registers s note row) (htarget : target ≠ Protocol.emptyLeafIndex)
    (hleaf : ∀ confirmed, leaf (receipt confirmed) = confirmed.leafIndex) (replies : Replies) :
    Fails (v.next (.request replies)).request ∨
      Follows leaf target own note enquire receipt s.vault row last
        (v.next (.request replies)) := by
  have hprogress := h.progress
  cases hrequest : v.request with
  | done r =>
    rw [next_done hrequest]
    exact .inr h
  | act step rest =>
    rw [hrequest] at hprogress
    obtain ⟨hprogress, hspares⟩ := hprogress.act h.source hregisters.txnId htarget hleaf
    rw [next_act hrequest]
    refine .inr ⟨⟨fun other ho => h.tended.rows other (hspares.pending ho), h.tended.sweeps⟩,
      hspares.vault.trans h.vault, ?_, hprogress⟩
    change ∀ i, (step v.state).2.source.fails i = false
    rw [hspares.fails]
    exact h.source
  | ask query rest =>
    rw [hrequest] at hprogress
    rw [next_ask hrequest]
    rcases hprogress.ask (replies.reply query) with hfails | hprogress
    · exact .inl hfails
    · exact .inr ⟨⟨h.tended.rows, h.tended.sweeps⟩, h.vault, h.source, hprogress⟩

theorem Follows.play (h : Follows leaf target own note enquire receipt s.vault row last v)
    (hregisters : Registers s note row) (hlast : last < row.id)
    (htarget : target ≠ Protocol.emptyLeafIndex)
    (hleaf : ∀ confirmed, leaf (receipt confirmed) = confirmed.leafIndex)
    (hallows : Scene.Along (Allows own note target row.id) turns v) :
    Fails (v.play turns).request ∨
      Follows leaf target own note enquire receipt s.vault row last (v.play turns) := by
  induction turns generalizing v with
  | nil => exact .inr h
  | cons turn turns ih =>
    have hnext : Fails (v.next turn).request ∨
        Follows leaf target own note enquire receipt s.vault row last (v.next turn) := by
      by_cases hother : turn.IsRequest
      case neg => exact .inr (h.other hregisters hlast hother hallows.1)
      case pos =>
        cases turn with
        | request replies => exact h.request hregisters htarget hleaf replies
        | _ => exact hother.elim
    rcases hnext with hfails | hfollows
    · exact .inl (fails_play hfails turns)
    · exact ih hfollows hallows.2

theorem Follows.end (h : Follows leaf target own note enquire receipt s.vault row last v)
    (hregisters : Registers s note row) (hlast : last < row.id)
    (htarget : target ≠ Protocol.emptyLeafIndex)
    (hleaf : ∀ confirmed, leaf (receipt confirmed) = confirmed.leafIndex)
    (hallows : Scene.Along (Allows own note target row.id) turns v) {r : α}
    (hend : (v.play turns).request = .done (.ok r)) (hr : leaf r = target) :
    (v.play turns).state.store.vault = s.vault ∧ Placed note target (v.play turns).state.store ∧
      (own → Gone row.id (v.play turns).state.store) := by
  rcases h.play hregisters hlast htarget hleaf hallows with hfails | hfollows
  · rw [hend] at hfails
    obtain ⟨e, he⟩ := hfails
    cases he
  · exact ⟨hfollows.vault, hfollows.progress.ended_ok hend hr⟩

end After

def RegistersAs (v : Scene α) (turns : List Turn) (n : Note) (row : PendingRow) : Prop :=
  ∃ before replies after rest, turns = before ++ .request replies :: after ∧
    (v.play before).request = .act (State.register n) rest ∧
    Registers (v.play before).state.store n row ∧
    ((v.play before).next (.request replies)).state.store = (v.play before).state.store.enrol row

section Converges

variable {leaf : α → UInt64} {note : Note} {rest : Except StoreError Int → Action α} {v : Scene α}
  {turns : List Turn} {r : α}

theorem register_turn (hrequest : v.request = .act (State.register note) rest)
    (hregistering : Registering leaf note rest) (replies : Replies) :
    Fails (v.next (.request replies)).request ∨
      ∃ row source, Registers v.state.store note row ∧ row.id = v.state.store.nextId ∧
        source.fails = v.state.source.fails ∧
        v.next (.request replies) =
          { v with
            state := { v.state with store := v.state.store.enrol row, source }
            request := rest (.ok row.id) } := by
  have hfails := Store.registerUnconfirmed_fails v.state.store note v.state.clock v.state.source
  rw [next_act hrequest]
  unfold State.register
  rcases Store.registerUnconfirmed_cases note v.state.clock v.state.store v.state.source with
    ⟨e, source, hr⟩ | ⟨row, source, hregisters, hid, hr⟩
  · rw [hr]
    exact .inl (hregistering.error e)
  · rw [hr] at hfails ⊢
    exact .inr ⟨row, source, hregisters, hid, hfails, rfl⟩

theorem Confirms.converges (h : Confirms leaf v.request) (hsweeps : v.sweeps = [])
    (hnumbered : ∀ row ∈ v.state.store.pending, row.id ≤ v.state.store.lastId)
    (hsource : ∀ i, v.state.source.fails i = false)
    (hend : (v.play turns).request = .done (.ok r)) (hleaf : leaf r ≠ Protocol.emptyLeafIndex)
    (hfree : held (leaf r) v.state.store = []) :
    ∃ n row, RegistersAs v turns n row ∧
      ∀ own, Scene.Along (Allows own n (leaf r) row.id) turns v →
        (v.play turns).state.store.vault = v.state.store.vault ∧
          Placed n (leaf r) (v.play turns).state.store ∧
          (own → Gone row.id (v.play turns).state.store) := by
  obtain ⟨before, replies, after, note, rest, rfl, halong, hrequest, hregistering⟩ :=
    h.exists_registering hend
  have htended (P : PendingRow → Prop) (hrows : ∀ row ∈ v.state.store.pending, P row) :
      Tended P v := ⟨hrows, by rw [hsweeps]; intro p hp; cases hp⟩
  have hold := htended (·.id ≤ v.state.store.lastId) hnumbered
  have hrests := rests_play halong hold
  rw [Scene.play_append] at hend ⊢
  rcases register_turn hrequest hregistering replies with hfails |
    ⟨row, source, hregisters, hid, hsame, hnext⟩
  · exact absurd hfails (not_fails hend)
  · have hlast : v.state.store.lastId < row.id := by
      rw [hid, ← hrests.shrinks.lastId]
      exact Store.lastId_lt_nextId _
    refine ⟨note, row, ⟨before, replies, after, rest, rfl, hrequest, hregisters, ?_⟩, ?_⟩
    · rw [hnext]
    intro own hallows
    obtain ⟨hbefore, -, hafter⟩ := Scene.along_append.mp hallows
    have hstanding := standing_before halong hold hlast hbefore (.inl hfree)
    have hkept := (rests_play halong (htended (fun other => other.id ≤ v.state.store.lastId ∨
      other = row) fun other ho => .inl (hnumbered other ho))).tended
    obtain ⟨watch, group, rounds, enquire, receipt, hok, hreceipt⟩ := hregistering.ok
    have hplaced : Standing own note (leaf r) row.id ((v.play before).state.store.enrol row) := by
      rcases hstanding with hfree | ⟨hplaced, hown⟩
      · exact .inl hfree
      · exact .inr ⟨hplaced, fun how => absurd how hown⟩
    have hworking : ∀ i, source.fails i = false := by
      rw [hsame, hrests.source]
      exact hsource
    rw [hok] at hnext
    change ((((v.play before).next (.request replies))).play after).request = _ at hend
    rcases follows_registered watch group rounds hkept hworking hplaced with hfails | hfollows
    · refine absurd ?_ (not_fails hend)
      rw [hnext]
      exact hfails
    · rw [← hnext] at hfollows
      rw [← hrests.shrinks.vault]
      exact hfollows.end hregisters hlast hleaf hreceipt hafter hend rfl

end Converges

def HeldOnce (n : Note) (leaf : UInt64) (key : Vault.PublicKey) (s : Store) : Prop :=
  ∃ row, held leaf s = [row] ∧ row.commitment = n.commitment.bytes ∧ Store.Opens key n row.nullifier

/-- If the request is confirmed at a free leaf, whatever turns come between its own, then the note
that it registers is held there once, as long as all other records that are promoted to the leaf are
of that note; and its registration is gone if no other record is promoted to it. -/
def Converges (leaf : α → UInt64) (p : Action α) (s : State) : Prop :=
  ∀ turns r, ((Scene.start s p).play turns).request = .done (.ok r) →
    leaf r ≠ Protocol.emptyLeafIndex → held (leaf r) s.store = [] →
    ∃ n row, RegistersAs (Scene.start s p) turns n row ∧
      (Scene.Along (OthersOfNote n (leaf r) row.id) turns (Scene.start s p) →
        HeldOnce n (leaf r) s.store.vault ((Scene.start s p).play turns).state.store) ∧
      (Scene.Along (OnlyItself (leaf r) row.id) turns (Scene.start s p) →
        HeldOnce n (leaf r) s.store.vault ((Scene.start s p).play turns).state.store ∧
          Gone row.id ((Scene.start s p).play turns).state.store)

theorem OnlyItself.others {leaf : UInt64} {id : Int} {v : Scene α} {turn : Turn} (n : Note)
    (h : OnlyItself leaf id v turn) : OthersOfNote n leaf id v turn :=
  fun r hturn hne => absurd (h r hturn) hne

theorem converges_of_confirms {leaf : α → UInt64} {p : Action α} {s : State} (h : Confirms leaf p)
    (hnumbered : ∀ row ∈ s.store.pending, row.id ≤ s.store.lastId)
    (hsource : ∀ i, s.source.fails i = false) : Converges leaf p s := by
  intro turns r hend hleaf hfree
  obtain ⟨n, row, hregisters, hplaced⟩ := Confirms.converges (v := Scene.start s p) h rfl hnumbered
    hsource hend hleaf hfree
  have hheld {own : Prop} (hallows : Scene.Along (Allows own n (leaf r) row.id) turns
      (Scene.start s p)) :
      HeldOnce n (leaf r) s.store.vault ((Scene.start s p).play turns).state.store := by
    obtain ⟨hvault, ⟨x, hx, hc, hseals⟩, -⟩ := hplaced own hallows
    rw [hvault] at hseals
    exact ⟨x, hx, hc, hseals.opens⟩
  refine ⟨n, row, hregisters, fun hnote => ?_, fun hitself => ?_⟩
  · have hallows : Scene.Along (Allows False n (leaf r) row.id) turns (Scene.start s p) :=
      along_allows hnote fun h => h.elim
    exact hheld hallows
  · have hallows : Scene.Along (Allows True n (leaf r) row.id) turns (Scene.start s p) :=
      along_allows (Scene.along_mono (fun _ _ h => h.others n) hitself) fun _ => hitself
    exact ⟨hheld hallows, (hplaced True hallows).2.2 trivial⟩

theorem confirmed_note_held_once (c : Settings) {s : State}
    (hnumbered : ∀ row ∈ s.store.pending, row.id ≤ s.store.lastId)
    (hsource : ∀ i, s.source.fails i = false) :
    (∀ form, Converges DepositReceipt.leafIndex (confirmDeposit c form) s) ∧
      ∀ form, Converges WithdrawalReceipt.changeLeafIndex (confirmWithdrawal c form) s :=
  ⟨fun form => converges_of_confirms (confirmDeposit_confirms c form) hnumbered hsource,
    fun form => converges_of_confirms (confirmWithdrawal_confirms c form) hnumbered hsource⟩

theorem register_eq {n : Note} {s : State} {id : Int} {store : Store} {source : Random.Source}
    (h : s.store.registerUnconfirmed n s.clock s.source = (.ok id, store, source)) :
    s.register n = (.ok id, { s with store, source }) := by
  unfold State.register
  rw [h]

theorem registersAs_append {v : Scene α} {before turns : List Turn} {n : Note}
    {row : PendingRow} (h : RegistersAs (v.play before) turns n row) (after : List Turn) :
    RegistersAs v (before ++ (turns ++ after)) n row := by
  obtain ⟨earlier, replies, later, rest, rfl, hrequest, hregisters, henrol⟩ := h
  rw [← Scene.play_append] at hrequest hregisters henrol
  refine ⟨before ++ earlier, replies, later ++ after, rest, ?_, hrequest, hregisters, henrol⟩
  simp only [List.append_assoc, List.cons_append]

namespace BothSides

open FreshTicket (settings)
open Ledger (Confirmation SignedTransaction)
open SpentSession (state deposit form)

def client : Ledger.Client Unit where
  answer q l := match q with
    | .submit _ => (.ok "T", l)
    | .status => (.ok 5, l)
    | .pending _ =>
      (.ok { confirmedRound := some 6, logs := [Ledger.Abi.encodeReturn 0 (Block.zero 32)] }, l)
    | q => (q.failure (.transport none), l)

theorem send_run (group : List SignedTransaction) (s : State) :
    (Confirmation.send group "T" settings.waitRounds).run client s () =
      (.ok ⟨"T", 6, 0⟩, s, ()) := by
  have hleaf := Ledger.Abi.leafIndexOfLogs_encodeReturn 0 (Block.zero 32)
  have hlt : (5 : UInt64).toNat < Confirmation.deadline 5 settings.waitRounds := by decide
  rw [Confirmation.send, Flow.run_ask]
  simp only [client, Flow.run_bind, Confirmation.wait, Flow.run_ask]
  rw [Confirmation.poll, dif_pos hlt, Flow.run_ask]
  simp only [Confirmation.sighting, Confirmation.verdict, Flow.run_done, Confirmation.ofPending,
    hleaf]

def scene (s : State) : Scene DepositReceipt :=
  .start s (confirmDeposit settings (form 1000000))

def replies : Replies := repliesOf client ()

def receipt : DepositReceipt := ⟨"T", 0, Amount.ofUnits 1000000⟩

def entry (w : Word) : TxnRecord := ⟨0, w, "T", .deposit, 1000000, 0, none⟩

theorem submit_run (group : List SignedTransaction) (id : Int) (s : State) :
    (submitDeposit settings deposit group id).run client s () =
      (.ok receipt, settled deposit.note id (.ok ⟨"T", 6, 0⟩) s, ()) := by
  have hsend : (Confirmation.send group deposit.watch settings.waitRounds).run client s () =
      (.ok ⟨"T", 6, 0⟩, s, ()) := send_run group s
  rw [submitDeposit_eq, submission_eq, Flow.run_bind, hsend]
  simp only [settling, Flow.run_act, Flow.run_bind, release_run, Flow.run_done]
  rfl

theorem exists_registered {v : Scene DepositReceipt} (store : Store)
    (hrequest : v.request = confirmDeposit settings (form 1000000))
    (hstate : v.state = { state with store }) (hroom : store.nextId < Store.signedLimit) :
    ∃ row group, RegistersAs v [.request replies, .request replies] deposit.note row ∧
      v.play [.request replies] = { v with
        state := (v.play [.request replies]).state
        request := registering settings deposit group } ∧
      (v.play [.request replies]).state.store = store ∧
      v.play [.request replies, .request replies] = { v with
        state := (v.play [.request replies, .request replies]).state
        request := submitDeposit settings deposit group row.id } ∧
      (v.play [.request replies, .request replies]).state.store = store.enrol row := by
  obtain ⟨group, happroves⟩ := SpentSession.approves_form
  obtain ⟨key, htaken, htake, hchecking⟩ := happroves.shape
  have hfirst : v.play [.request replies] =
      { v with
        state := { (state.takeSession key).2 with store }
        request := registering settings deposit group } := by
    have hsame : ({ state with store } : State).takeSession key =
        ((state.takeSession key).1, { (state.takeSession key).2 with store }) := rfl
    change v.next (.request replies) = _
    rw [next_act (hrequest.trans htake), hstate, hsame, htaken, hchecking]
  have hsource : ∀ i, state.source.fails i = false := fun _ => rfl
  obtain ⟨after, source, hregister⟩ := Store.registerUnconfirmed_of (n := deposit.note) state.clock
    rfl hroom hsource
  obtain ⟨row, hid, hregisters, rfl⟩ := Store.registerUnconfirmed_ok hregister
  have hsecond : v.play [.request replies, .request replies] =
      { v with
        state := { (state.takeSession key).2 with store := store.enrol row, source }
        request := submitDeposit settings deposit group row.id } := by
    change (v.play [.request replies]).next (.request replies) = _
    rw [hfirst, next_act rfl, register_eq hregister, hid]
  have hregistering : (v.play [.request replies]).request = registering settings deposit group := by
    rw [hfirst]
  refine ⟨row, group, ⟨[.request replies], replies, [], _, rfl, hregistering, ?_, ?_⟩, ?_, ?_, ?_,
    ?_⟩
  · rw [hfirst]
    exact hregisters
  · change (v.play [.request replies, .request replies]).state.store = _
    rw [hsecond, hfirst]
  · rw [hfirst]
  · rw [hfirst]
  · rw [hsecond]
  · rw [hsecond]

theorem exists_swept {P : PendingRow → Prop} {v : Scene DepositReceipt} {s : Store}
    (t : TxnRecord) (hv : Tended P v) (hsweeps : v.sweeps = [])
    (hrun : ((Sweep.batches 0 3600 8 2 0 {}).run .offline
      (v.state.store.recordTxn t).2 ()).2.1 = s) :
    ∃ turns, .record t ∈ turns ∧ .begin 0 3600 8 2 ∈ turns ∧
      (∀ turn ∈ turns, ¬ turn.IsRequest) ∧
        ∃ r, v.play turns = { v.withStore s with sweeps := [.done r] } := by
  have hrecorded : Tended P (v.next (.record t)) := hv.next id
  have hbegun : Tended P ((v.next (.record t)).next (.begin 0 3600 8 2)) := hrecorded.next id
  have hlist : ((v.next (.record t)).next (.begin 0 3600 8 2)).sweeps =
      [Sweep.batches 0 3600 8 2 0 {}] := by
    change v.sweeps ++ [_] = _
    rw [hsweeps]
    rfl
  obtain ⟨turns, hturns, hplay⟩ := sweep_alone (i := 0) (batches_works 0 3600 8 2 0 {})
    (by rw [hlist]; rfl) hbegun
  refine ⟨.record t :: .begin 0 3600 8 2 :: turns, by simp, by simp, ?_,
    ((Sweep.batches 0 3600 8 2 0 {}).run .offline (v.state.store.recordTxn t).2 ()).1, ?_⟩
  · simp only [List.forall_mem_cons]
    exact ⟨id, id, fun turn ht => by rw [hturns turn ht]; exact id⟩
  · rw [← hrun]
    refine hplay.trans ?_
    rw [hlist]
    rfl

theorem exists_confirmed {v : Scene DepositReceipt} {group : List SignedTransaction} {id : Int}
    (h : v.request = submitDeposit settings deposit group id) :
    ∃ turns, (∀ turn ∈ turns, turn.IsRequest) ∧
      v.play turns =
        { v with
          state := settled deposit.note id (.ok ⟨"T", 6, 0⟩) v.state
          request := .done (.ok receipt) } := by
  obtain ⟨turns, hturns, hplay⟩ := request_alone client () h
  rw [submit_run] at hplay
  exact ⟨turns, hturns, hplay⟩

theorem row_eq_of_registersAs {v : Scene DepositReceipt} {turns : List Turn} {n : Note}
    {row row' : PendingRow} (h : RegistersAs v turns n row)
    (halong : Scene.Along (fun v turn => Tended (· = row') v ∧ Tended (· = row') (v.next turn))
      turns v) : row = row' := by
  obtain ⟨before, replies, after, rest, rfl, -, -, henrol⟩ := h
  obtain ⟨-, ⟨-, hnext⟩, -⟩ := Scene.along_append.mp halong
  refine hnext.rows row ?_
  rw [henrol]
  exact Store.mem_enrol _ row

theorem confirmed_note_held_once_swept : ∃ turns n row,
    ((scene state).play turns).request = .done (.ok receipt) ∧
      .record (entry deposit.note.commitment) ∈ turns ∧ .begin 0 3600 8 2 ∈ turns ∧
      held 0 state.store = [] ∧ RegistersAs (scene state) turns n row ∧
      Scene.Along (OnlyItself 0 row.id) turns (scene state) ∧
      HeldOnce n 0 state.store.vault ((scene state).play turns).state.store ∧
      Gone row.id ((scene state).play turns).state.store := by
  obtain ⟨row, group, -, hfirst, htaken, hsecond, henrolled⟩ :=
    exists_registered (v := scene state) state.store rfl rfl (by decide)
  have hregistered : Tended (· = row)
      ((scene state).play [.request replies, .request replies]) := by
    refine ⟨fun other ho => ?_, ?_⟩
    · rw [henrolled] at ho
      exact List.mem_singleton.mp ho
    · rw [hsecond]
      exact List.forall_mem_nil _
  obtain ⟨others, hrecord, hbegin, hothers, -⟩ := exists_swept (entry deposit.note.commitment)
    hregistered (by rw [hsecond]; rfl) rfl
  have hsubmit : (((scene state).play [.request replies, .request replies]).play others).request =
      submitDeposit settings deposit group row.id := by
    rw [request_play hothers, hsecond]
  obtain ⟨alone, -, hend⟩ := exists_confirmed hsubmit
  have hplay : ((scene state).play ([.request replies, .request replies] ++
      (others ++ alone))).request = .done (.ok receipt) := by
    rw [Scene.play_append, Scene.play_append, hend]
  have htended : Scene.Along (fun v turn => Tended (· = row) v ∧ Tended (· = row) (v.next turn))
      ([.request replies, .request replies] ++ (others ++ alone)) (scene state) := by
    have hempty : Tended (· = row) (scene state) := tended_of_none rfl rfl
    have hone : Tended (· = row) ((scene state).play [.request replies]) := by
      refine tended_of_none ?_ ?_
      · rw [htaken]
        rfl
      · rw [hfirst]
        rfl
    refine Scene.along_append.mpr ⟨?_, ?_⟩
    · -- Rewritten, since the kernel would run the request to see that one turn is a play.
      rw [Scene.play_cons, Scene.play_nil] at hone
      rw [Scene.play_cons, Scene.play_cons, Scene.play_nil] at hregistered
      exact ⟨⟨hempty, hone⟩, ⟨hone, hregistered⟩, trivial⟩
    · refine along_tended hregistered ?_ _
      rw [hsecond]
      exact submission_drops _ _ _ _ _ _ (affordable_every settings deposit.address)
  obtain ⟨n, row', hregisters, -, hitself⟩ := (confirmed_note_held_once settings (s := state)
    (fun other ho => by cases ho) fun _ => rfl).1 (form 1000000) _ receipt hplay (by decide) rfl
  have honly : Scene.Along (OnlyItself 0 row'.id)
      ([.request replies, .request replies] ++ (others ++ alone)) (scene state) := by
    refine Scene.along_mono (fun v turn h r hturn => ?_) htended
    obtain ⟨other, rfl, hid, -⟩ := h.1.promoted hturn
    rw [row_eq_of_registersAs hregisters htended, hid]
  exact ⟨_, n, row', hplay, by simp [hrecord], by simp [hbegin], rfl, hregisters, honly,
    hitself honly⟩

def registered (w : Word) (blob : Bytes) : Store :=
  { vault := state.store.vault, pending := [⟨1, w.bytes, blob, "T", 0⟩], lastId := 1 }

def promoted (w : Word) (blob : Bytes) : Store :=
  { (registered w blob).post (entry w) with notes := [⟨0, w.bytes, "T", blob⟩], pending := [] }

theorem recordTxn_registered (w : Word) (blob : Bytes) :
    (registered w blob).recordTxn (entry w) = (.ok (), (registered w blob).post (entry w)) :=
  Store.recordTxn_of ⟨(by decide : (1000000 : UInt64).toNat < Store.signedLimit),
    (by decide : (0 : UInt64).toNat < Store.signedLimit), List.forall_mem_nil _,
    List.forall_mem_nil _⟩

theorem sweep_registered (w : Word) (blob : Bytes) :
    ((Sweep.batches 0 3600 8 2 0 {}).run .offline ((registered w blob).recordTxn (entry w)).2
      ()).2.1 = promoted w blob := by
  have hordered : Store.Ordered ((registered w blob).post (entry w)) := by
    refine ⟨List.pairwise_singleton _ _, ?_, ?_⟩
    · intro row hrow
      rw [List.mem_singleton.mp hrow]
      exact Int.one_pos
    · intro t ht
      rw [List.mem_singleton.mp ht]
      exact ⟨0, rfl⟩
  have hread : ∀ row ∈ ((registered w blob).post (entry w)).pending, row.Readable := by
    intro row hrow
    rw [List.mem_singleton.mp hrow]
    exact w.length_eq
  have hfind : ((registered w blob).post (entry w)).txns.find? (·.commitment = w.bytes) =
      some (Store.rowOf (entry w)) := List.find?_cons_of_pos (decide_eq_true rfl)
  rw [recordTxn_registered]
  change (Sweep.run 0 3600 8 false ((registered w blob).post (entry w))).2 = _
  rw [Sweep.run_ok 0 3600 hordered hread (by decide)]
  change (Sweep.visit 0 3600 ({}, (registered w blob).post (entry w))
    ⟨1, w.bytes, blob, "T", 0⟩).2 = _
  unfold Sweep.visit
  dsimp only
  rw [hfind]
  rfl

theorem settled_of_taken (n : Note) (id : Int) (confirmed : Confirmation) {s : State}
    (h : ∃ x ∈ s.store.notes, x.leaf = Store.signed confirmed.leafIndex) :
    (settled n id (.ok confirmed) s).store = s.store := by
  obtain ⟨x, hx, hleaf⟩ := h
  cases hsave : s.store.saveNote { n with leafIndex := confirmed.leafIndex } s.source with
  | mk r rest =>
    obtain ⟨store, source⟩ := rest
    cases r with
    | ok u =>
      obtain ⟨row, hsaves, -⟩ := Store.saveNote_ok hsave
      exact absurd (hleaf.trans hsaves.leaf.symm) (hsaves.free x hx)
    | error e =>
      have hstep : s.saveNote { n with leafIndex := confirmed.leafIndex } =
          (.error e, { s with source }) := by
        unfold State.saveNote
        rw [hsave, Store.saveNote_error hsave]
      change (released id (.ok _) _).store = _
      rw [hstep]
      rfl

def blob : Bytes :=
  Vault.sealWith state.store.vault (Block.zero 32) (Block.zero 24) deposit.note.nullifier.bytes

def earlier : State := { state with store := registered deposit.note.commitment blob }

theorem registration_stays : ∃ turns n row,
    ((scene earlier).play turns).request = .done (.ok receipt) ∧
      (∀ p ∈ ((scene earlier).play turns).sweeps, ∃ r, p = .done r) ∧
      held 0 earlier.store = [] ∧ RegistersAs (scene earlier) turns n row ∧
      Scene.Along (OthersOfNote n 0 row.id) turns (scene earlier) ∧
      row ∈ ((scene earlier).play turns).state.store.pending := by
  have hearlier : Tended (fun other => other.commitment = deposit.note.commitment.bytes ∧
      Seals state.store.vault deposit.note other.nullifier) (scene earlier) := by
    refine ⟨fun other ho => ?_, List.forall_mem_nil _⟩
    rw [List.mem_singleton.mp ho]
    exact ⟨rfl, Block.zero 32, Block.zero 24, rfl⟩
  have hstore : (scene earlier).state.store = registered deposit.note.commitment blob := rfl
  obtain ⟨others, -, -, hothers, r, hswept⟩ :=
    exists_swept (s := promoted deposit.note.commitment blob) (entry deposit.note.commitment)
      hearlier rfl (by rw [hstore]; exact sweep_registered _ _)
  have hrequest : ((scene earlier).play others).request =
      confirmDeposit settings (form 1000000) := request_play hothers
  obtain ⟨row, group, hregisters, -, -, hsecond, henrolled⟩ :=
    exists_registered (promoted deposit.note.commitment blob) hrequest (by rw [hswept]; rfl)
      (by decide)
  have hsubmit : (((scene earlier).play others).play
      [.request replies, .request replies]).request =
        submitDeposit settings deposit group row.id := by rw [hsecond]
  obtain ⟨alone, halone, hend⟩ := exists_confirmed hsubmit
  have hplay := (Scene.play_append (scene earlier) others
    ([.request replies, .request replies] ++ alone)).trans
      ((Scene.play_append _ _ _).trans hend)
  have hsettled := settled_of_taken deposit.note row.id ⟨"T", 6, 0⟩
    (s := (((scene earlier).play others).play [.request replies, .request replies]).state)
    (by rw [henrolled]; exact ⟨_, List.mem_singleton.mpr rfl, rfl⟩)
  refine ⟨_, deposit.note, row, by rw [hplay], ?_, rfl, registersAs_append hregisters alone, ?_, ?_⟩
  · rw [hplay, hsecond, hswept]
    exact fun p hp => ⟨r, List.mem_singleton.mp hp⟩
  · have hrequests : ∀ turn ∈ [.request replies, .request replies] ++ alone, turn.IsRequest := by
      simp only [List.cons_append, List.nil_append, List.forall_mem_cons]
      exact ⟨trivial, trivial, halone⟩
    refine Scene.along_append.mpr ⟨?_, ?_⟩
    · refine Scene.along_mono (fun v turn h r hturn _ => ?_)
        (along_others hearlier (.of_eq rfl) hothers)
      obtain ⟨other, ⟨hcommitment, hnullifier⟩, -, hc, hn⟩ := h.1.promoted hturn
      refine ⟨Block.eq_of_bytes_eq (hc.symm.trans hcommitment), ?_⟩
      rw [h.2.vault, ← hn]
      exact hnullifier
    · exact Scene.along_mono (fun v turn h r hturn => absurd hturn (h r 0))
        (along_requests hrequests)
  · rw [hplay]
    change row ∈ (settled deposit.note row.id (.ok ⟨"T", 6, 0⟩) _).store.pending
    rw [hsettled, henrolled]
    exact Store.mem_enrol _ row

end BothSides

end ShieldedPool.Pool
