import Mathlib.Algebra.Ring.Nat
import ShieldedPool.Proofs.Ledger.Disclosure
import ShieldedPool.Proofs.Ledger.GroupBinding
import ShieldedPool.Proofs.Text.Radix

namespace ShieldedPool.Ledger

open Hash.Sha512 (Collision)
open MessagePack (sizeLimit)

namespace Transaction

variable {t u : Transaction}

def idInput (t : Transaction) : Bytes := Text.utf8 "TX" ++ t.encode

theorem collision_of_id_eq (hne : t.encode ≠ u.encode) (h : t.id = u.id) :
    Collision [t.idInput] [u.idInput] := by
  have hdigest : t.idBytes = u.idBytes := Block.eq_of_bytes_eq (Text.Base32.encode_injective h)
  have hinput : t.idInput ≠ u.idInput := fun heq => hne (List.append_cancel_left heq)
  exact ⟨_, List.mem_singleton.mpr rfl, _, List.mem_singleton.mpr rfl, hinput, hdigest⟩

theorem payment_ne_appCall {receiver : Address} {amount appId : UInt64} {args : List Bytes}
    {accounts : List Address} (ht : t.kind = .payment receiver amount) (hamount : amount ≠ 0)
    (hu : u.kind = .appCall appId args accounts) (hargs : args ≠ []) : t.encode ≠ u.encode := by
  intro h
  obtain ⟨others, ht⟩ := fields_payment ht hamount
  obtain ⟨others', hu, -⟩ := fields_appCall hu hargs
  have hentries := entries_cons_append_inj ht hu (congrArg (· ++ []) h)
  have hname : "amt" = "apaa" :=
    MessagePack.entryBytes_name_inj (by decide) (by decide) hentries
  exact absurd hname (by decide)

theorem args_eq_of_encode {appId appId' : UInt64} {args args' : List Bytes}
    {accounts accounts' : List Address} (ht : t.kind = .appCall appId args accounts)
    (hu : u.kind = .appCall appId' args' accounts') (hne : args ≠ []) (hne' : args' ≠ [])
    (hargs : ArgsFit args) (hargs' : ArgsFit args') (h : t.encode = u.encode) : args = args' := by
  obtain ⟨others, ht, -⟩ := fields_appCall ht hne
  obtain ⟨others', hu, -⟩ := fields_appCall hu hne'
  have hentries := entries_cons_append_inj ht hu (congrArg (· ++ []) h)
  obtain ⟨hsame, -⟩ := MessagePack.entryBytes_append_inj (blobs_recovers hargs)
    (blobs_recovers hargs') "apaa" hentries
  exact FieldValue.blobs.inj hsame

theorem fields_note (t : Transaction) : ∃ front back : FieldList, ∀ note ≠ [],
    { t with note }.fields = front ++ ("note", .blob note) :: back := by
  obtain ⟨front, back, hall⟩ : ∃ front back : FieldList, ∀ note,
      { t with note }.allFields = front ++ ("note", .blob note) :: back := by
    refine ⟨t.allFields.take 10, t.allFields.drop 11, fun note => ?_⟩
    unfold allFields
    cases t.kind <;> rfl
  refine ⟨front.filter fun f => !f.2.isEmpty, back.filter fun f => !f.2.isEmpty, fun note hne => ?_⟩
  have hnote : (FieldValue.blob note).isEmpty = false := by simp [FieldValue.isEmpty, hne]
  rw [fields, hall, List.filter_append, filter_cons_of_filled hnote]

theorem note_eq_of_encode {x y : Bytes} (hx : x ≠ []) (hy : y ≠ [])
    (hxsize : x.length < sizeLimit) (hysize : y.length < sizeLimit)
    (h : { t with note := x }.encode = { t with note := y }.encode) : x = y := by
  obtain ⟨front, back, hfields⟩ := t.fields_note
  have hentries := entries_append_inj (congrArg (· ++ []) h)
  rw [hfields x hx, hfields y hy, List.flatMap_append, List.flatMap_append, List.flatMap_cons,
    List.flatMap_cons] at hentries
  simp only [List.append_assoc, List.append_cancel_left_eq] at hentries
  have hread {bs : Bytes} (hsize : bs.length < sizeLimit) :
      MessagePack.Recovers readBlobField FieldValue.write (.blob bs) :=
    FieldValue.reader_recovers (v := .blob bs) hsize
  obtain ⟨hsame, -⟩ :=
    MessagePack.entryBytes_append_inj (hread hxsize) (hread hysize) "note" hentries
  exact FieldValue.blob.inj hsame

end Transaction

def Apart (t u : Transaction) : Prop :=
  ∀ g, { t with group := g }.encode ≠ { u with group := g }.encode

theorem Apart.symm {t u : Transaction} (h : Apart t u) : Apart u t := fun g heq => h g heq.symm

namespace Builder

variable {b : Builder} {params : ChainParams}

def IsCall (b : Builder) (t : Transaction) : Prop :=
  t.sender = b.pool.verifierAddress ∧ ∃ args accounts, t.kind = .appCall b.pool.appId args accounts

def IsPayment (b : Builder) (depositor : Address) (amount : UInt64) (t : Transaction) : Prop :=
  t.sender = depositor ∧ t.kind = .payment b.pool.appAddress amount

def noop (b : Builder) (params : ChainParams) (place : Nat) : Transaction :=
  b.call params 0 [Abi.selector Protocol.noopSignature] [] (Bytes.natBE 8 place)

def filled (b : Builder) (params : ChainParams) (heads : List Transaction) : List Transaction :=
  heads ++ b.noops params heads.length

section Members

theorem length_depositArgs {amount : UInt64} {depositor : Address} {note : Note}
    {args : List Bytes} (h : depositArgs amount depositor note = .ok args) : args.length = 4 := by
  obtain ⟨proof, -, h⟩ := bind_ok h
  obtain ⟨inputs, -, h⟩ := bind_ok h
  cases h
  rfl

theorem length_withdrawalArgs {w : Withdrawal} {root : Word} {proof : Bytes} {args : List Bytes}
    (h : withdrawalArgs w root proof = .ok args) : args.length = 6 := by
  obtain ⟨_, _, _, -, -, -, rfl⟩ := withdrawalArgs_eq_ok h
  rfl

theorem call_isCall (fee : UInt64) (args : List Bytes) (accounts : List Address) (note : Bytes) :
    b.IsCall (b.call params fee args accounts note) := ⟨rfl, _, _, rfl⟩

theorem noop_isCall (i : Nat) : b.IsCall (b.noop params i) := call_isCall 0 _ [] _

theorem noopArgs_fit : ArgsFit [Abi.selector Protocol.noopSignature] := by
  refine ⟨(by decide : 1 < sizeLimit), fun bs hbs => ?_⟩
  rw [List.mem_singleton.mp hbs]
  exact Abi.length_selector Protocol.noopSignature

theorem noop_apart {i j : Nat} (hi : i < 2 ^ 64) (hj : j < 2 ^ 64) (hij : i ≠ j) :
    Apart (b.noop params i) (b.noop params j) := by
  intro g h
  have hlength (k : Nat) : (Bytes.natBE 8 k).length = 8 := Bytes.length_natBE 8 k
  have hne (k : Nat) : Bytes.natBE 8 k ≠ [] := List.ne_nil_of_length_eq_add_one (hlength k)
  have hsize (k : Nat) : (Bytes.natBE 8 k).length < sizeLimit := by
    rw [hlength]
    decide
  have hnotes : Bytes.natBE 8 i = Bytes.natBE 8 j := Transaction.note_eq_of_encode
    (t := { b.noop params 0 with group := g }) (hne i) (hne j) (hsize i) (hsize j) h
  have hvalues := congrArg Bytes.valueBE hnotes
  have hcapacity : Bytes.capacity 8 = 2 ^ 64 := by decide
  rw [Bytes.valueBE_natBE, Bytes.valueBE_natBE, hcapacity, Nat.mod_eq_of_lt hi,
    Nat.mod_eq_of_lt hj] at hvalues
  exact hij hvalues

theorem call_apart_noop {fee : UInt64} {args : List Bytes} {accounts : List Address} {note : Bytes}
    (hargs : ArgsFit args) (hcount : 1 < args.length) (i : Nat) :
    Apart (b.call params fee args accounts note) (b.noop params i) := by
  intro g h
  have hne : args ≠ [] := List.ne_nil_of_length_pos (Nat.lt_of_succ_lt hcount)
  have hsame :=
    Transaction.args_eq_of_encode rfl rfl hne (List.cons_ne_nil _ _) hargs noopArgs_fit h
  rw [hsame] at hcount
  exact absurd hcount (by decide)

theorem payment_apart_call {depositor : Address} {fee fee' amount : UInt64} {args : List Bytes}
    {accounts : List Address} {note : Bytes} (hamount : amount ≠ 0) (hargs : args ≠ []) :
    Apart (b.payment params depositor fee amount) (b.call params fee' args accounts note) :=
  fun _ => Transaction.payment_ne_appCall rfl hamount rfl hargs

end Members

section Filled

variable {heads : List Transaction}

theorem length_filled (h : heads.length ≤ b.config.groupSize) :
    (b.filled params heads).length = b.config.groupSize := by
  simp [filled, noops, Nat.add_sub_cancel' h]

theorem mem_filled {t : Transaction} (h : t ∈ b.filled params heads) :
    t ∈ heads ∨ ∃ i, t = b.noop params i := by
  rcases List.mem_append.mp h with h | h
  · exact .inl h
  · obtain ⟨i, -, rfl⟩ := List.mem_map.mp h
    exact .inr ⟨i, rfl⟩

theorem getElem?_filled {i : Nat} {t : Transaction} (hi : heads.length ≤ i)
    (h : (b.filled params heads)[i]? = some t) : t = b.noop params i := by
  rw [filled, List.getElem?_append_right hi, noops, List.getElem?_map] at h
  obtain ⟨k, hk, rfl⟩ := Option.map_eq_some_iff.mp h
  obtain ⟨_, hk⟩ := List.getElem?_eq_some_iff.mp hk
  have hplace : k = i := by
    rw [List.getElem_range'] at hk
    omega
  rw [hplace, noop]

theorem fees_filled : ((b.filled params heads).map (·.fee.toNat)).sum =
    (heads.map (·.fee.toNat)).sum := by
  simp [filled, noops, call, Function.comp_def]

theorem filled_apart (hheads : heads.Pairwise Apart)
    (hnoops : ∀ t ∈ heads, ∀ i, Apart t (b.noop params i)) {i j : Nat} {t u : Transaction}
    (hij : i < j) (hj : j < 2 ^ 64) (ht : (b.filled params heads)[i]? = some t)
    (hu : (b.filled params heads)[j]? = some u) : Apart t u := by
  rcases Nat.lt_or_ge i heads.length with hfront | hback
  · have ht' : heads[i]? = some t := by rwa [filled, List.getElem?_append_left hfront] at ht
    rcases Nat.lt_or_ge j heads.length with hfront' | hback'
    · have hu' : heads[j]? = some u := by rwa [filled, List.getElem?_append_left hfront'] at hu
      obtain ⟨_, rfl⟩ := List.getElem?_eq_some_iff.mp ht'
      obtain ⟨_, rfl⟩ := List.getElem?_eq_some_iff.mp hu'
      exact List.pairwise_iff_getElem.mp hheads i j hfront hfront' hij
    · rw [getElem?_filled hback' hu]
      exact hnoops t (List.mem_of_getElem? ht') j
  · rw [getElem?_filled hback ht, getElem?_filled (Nat.le_of_lt (Nat.lt_of_le_of_lt hback hij)) hu]
    exact noop_apart (Nat.lt_trans hij hj) hj (Nat.ne_of_lt hij)

end Filled

structure Assembled (b : Builder) (params : ChainParams) (multiplier : UInt64) (id : GroupId)
    (txns : List Transaction) : Prop where
  size : txns.length = b.config.groupSize
  shared : ∀ t ∈ txns,
    t.group = some id ∧ t.firstValid = params.firstValid ∧ t.lastValid = params.lastValid
  fees : (txns.map (·.fee.toNat)).sum = multiplier.toNat * params.minFee.toNat
  apart : ∀ i j t u, i < j → j < 2 ^ 64 → txns[i]? = some t → txns[j]? = some u →
    t.encode ≠ u.encode ∧ (t.id = u.id → Collision [t.idInput] [u.idInput])

theorem assembled_of_filled {heads : List Transaction} {multiplier : UInt64}
    (hsize : heads.length ≤ b.config.groupSize)
    (hwindow : ∀ t ∈ heads, t.firstValid = params.firstValid ∧ t.lastValid = params.lastValid)
    (hfees : (heads.map (·.fee.toNat)).sum = multiplier.toNat * params.minFee.toNat)
    (hheads : heads.Pairwise Apart) (hnoops : ∀ t ∈ heads, ∀ i, Apart t (b.noop params i)) :
    b.Assembled params multiplier (assignGroup (b.filled params heads)).1
      (assignGroup (b.filled params heads)).2 where
  size := by rw [assignGroup_members, List.length_map, length_filled hsize]
  shared := by
    intro t ht
    rw [assignGroup_members] at ht
    obtain ⟨t', ht', rfl⟩ := List.mem_map.mp ht
    rcases mem_filled ht' with hhead | ⟨i, rfl⟩
    · exact ⟨rfl, hwindow t' hhead⟩
    · exact ⟨rfl, rfl, rfl⟩
  fees := by
    rw [assignGroup_members, List.map_map, ← hfees, ← fees_filled]
    rfl
  apart := by
    intro i j t u hij hj ht hu
    rw [assignGroup_members, List.getElem?_map] at ht hu
    obtain ⟨t', ht', rfl⟩ := Option.map_eq_some_iff.mp ht
    obtain ⟨u', hu', rfl⟩ := Option.map_eq_some_iff.mp hu
    have hne := filled_apart hheads hnoops hij hj ht' hu'
      (some (assignGroup (b.filled params heads)).1)
    exact ⟨hne, Transaction.collision_of_id_eq hne⟩

section Groups

theorem checkGroupSize_ok_iff : b.checkGroupSize = .ok () ↔ 2 ≤ b.config.groupSize := by
  unfold checkGroupSize Protocol.paymentIndex
  split <;> simp <;> omega

theorem checkDeposit_ok_iff {amount : UInt64} {note : Note} :
    b.checkDeposit amount note = .ok () ↔ 0 < amount ∧ b.config.depositMinimum ≤ amount ∧
      note.amount = amount ∧ 2 ≤ b.config.groupSize := by
  have hpos : 0 < amount ↔ amount ≠ 0 := UInt64.pos_iff_ne_zero
  unfold checkDeposit
  rw [hpos, ← UInt64.not_lt, ← checkGroupSize_ok_iff]
  split
  · simp [*]
  · split
    · simp [*]
    · split
      · simp [*]
      · simp_all

theorem deposit_exists_iff {amount : UInt64} {depositor : Address} {note : Note} :
    (∃ g, b.deposit amount depositor note params = .ok g) ↔
      0 < amount ∧ b.config.depositMinimum ≤ amount ∧ note.amount = amount ∧
        2 ≤ b.config.groupSize ∧
        b.config.depositFeeMultiplier.toNat * params.minFee.toNat < 2 ^ 64 := by
  have hwords : 2 ^ 64 = UInt64.size := rfl
  rw [hwords, ← exists_checkedMul_iff]
  constructor
  · rintro ⟨g, hg⟩
    obtain ⟨hcheck, fee, -, hfee, -⟩ := deposit_eq_ok hg
    obtain ⟨hpos, hminimum, hnote, hsize⟩ := checkDeposit_ok_iff.mp hcheck
    exact ⟨hpos, hminimum, hnote, hsize, fee, hfee⟩
  · rintro ⟨hpos, hminimum, hnote, hsize, fee, hfee⟩
    exact deposit_of depositor (checkDeposit_ok_iff.mpr ⟨hpos, hminimum, hnote, hsize⟩) hfee

theorem depositTxns_eq_filled (depositor : Address) (fee amount : UInt64) (args : List Bytes) :
    b.depositTxns params depositor fee amount args =
      b.filled params [b.call params 0 args [] [], b.payment params depositor fee amount] := rfl

theorem withdrawalGroup_id (callFee : UInt64) (args : List Bytes) (recipient : Address) :
    (b.withdrawalGroup params callFee args recipient).groupId =
      (assignGroup (b.filled params [b.call params callFee args [recipient] []])).1 := rfl

theorem withdrawalGroup_txns (callFee : UInt64) (args : List Bytes) (recipient : Address) :
    (b.withdrawalGroup params callFee args recipient).txns =
      (assignGroup (b.filled params [b.call params callFee args [recipient] []])).2 := rfl

theorem getElem?_assignGroup {ts : List Transaction} {i : Nat} {t : Transaction}
    (h : (assignGroup ts).2[i]? = some t) :
    ∃ t', ts[i]? = some t' ∧ t'.sender = t.sender ∧ t'.kind = t.kind := by
  rw [assignGroup_members, List.getElem?_map] at h
  obtain ⟨t', ht', rfl⟩ := Option.map_eq_some_iff.mp h
  exact ⟨t', ht', rfl, rfl⟩

theorem IsCall.congr {t u : Transaction} (h : b.IsCall t) (hsender : t.sender = u.sender)
    (hkind : t.kind = u.kind) : b.IsCall u := by
  obtain ⟨hs, args, accounts, hk⟩ := h
  exact ⟨hsender ▸ hs, args, accounts, hkind ▸ hk⟩

theorem deposit_assembled {amount : UInt64} {depositor : Address} {note : Note} {g : DepositGroup}
    (h : b.deposit amount depositor note params = .ok g) :
    b.Assembled params b.config.depositFeeMultiplier g.groupId g.txns := by
  obtain ⟨hcheck, fee, args, hfee, hargs, hid, htxns, -⟩ := deposit_eq_ok h
  obtain ⟨hpos, -, -, hsize⟩ := checkDeposit_ok_iff.mp hcheck
  have hamount : amount ≠ 0 := UInt64.pos_iff_ne_zero.mp hpos
  have hcount : 1 < args.length := by
    rw [length_depositArgs hargs]
    decide
  have hne : args ≠ [] := List.ne_nil_of_length_pos (Nat.lt_of_succ_lt hcount)
  rw [hid, htxns, depositTxns_eq_filled]
  apply assembled_of_filled
  case hsize => exact hsize
  case hwindow => simp [call, payment]
  case hfees =>
    rw [← checkedMul_eq_some hfee]
    simp [call, payment]
  case hheads => exact List.pairwise_pair.mpr (payment_apart_call hamount hne).symm
  case hnoops =>
    refine List.forall_mem_cons.mpr ⟨?_, List.forall_mem_singleton.mpr ?_⟩
    · exact call_apart_noop (depositArgs_fit hargs) hcount
    · exact fun _ => payment_apart_call hamount (List.cons_ne_nil _ _)

theorem deposit_senders {amount : UInt64} {depositor : Address} {note : Note} {g : DepositGroup}
    (h : b.deposit amount depositor note params = .ok g) :
    (∃ t, g.txns[1]? = some t ∧ b.IsPayment depositor amount t) ∧
      ∀ i t, i ≠ 1 → g.txns[i]? = some t → b.IsCall t := by
  obtain ⟨-, fee, args, -, -, -, htxns, -⟩ := deposit_eq_ok h
  rw [htxns, depositTxns_eq_filled]
  constructor
  · rw [assignGroup_members]
    exact ⟨_, rfl, rfl, rfl⟩
  · intro i t hi ht
    obtain ⟨t', ht', hsender, hkind⟩ := getElem?_assignGroup ht
    refine IsCall.congr ?_ hsender hkind
    match i with
    | 0 => cases ht'; exact call_isCall 0 args [] []
    | 1 => exact absurd rfl hi
    | i + 2 =>
      rw [getElem?_filled (Nat.le_add_left 2 i) ht']
      exact noop_isCall (i + 2)

theorem withdrawal_assembled {w : Withdrawal} {root : Word} {proof : Bytes} {g : WithdrawalGroup}
    (h : b.withdrawal w root proof params = .ok g) :
    b.Assembled params b.config.withdrawalFeeMultiplier g.groupId g.txns := by
  obtain ⟨callFee, required, args, hcheck, hbudget, -, hargs, rfl⟩ := withdrawal_eq_ok_iff.mp h
  have hsize := checkGroupSize_ok_iff.mp (checkWithdrawal_ok_iff.mp hcheck).2.2
  have hcount : 1 < args.length := by
    rw [length_withdrawalArgs hargs]
    decide
  rw [withdrawalGroup_id, withdrawalGroup_txns]
  apply assembled_of_filled
  case hsize => exact Nat.le_of_succ_le hsize
  case hwindow => simp [call]
  case hfees =>
    rw [← (withdrawalBudget_eq_some hbudget).1]
    simp [call]
  case hheads => exact List.pairwise_singleton _ _
  case hnoops =>
    exact List.forall_mem_singleton.mpr (call_apart_noop (withdrawalArgs_fit hargs) hcount)

theorem withdrawal_senders {w : Withdrawal} {root : Word} {proof : Bytes} {g : WithdrawalGroup}
    (h : b.withdrawal w root proof params = .ok g) : ∀ t ∈ g.txns, b.IsCall t := by
  obtain ⟨callFee, required, args, -, -, -, -, rfl⟩ := withdrawal_eq_ok_iff.mp h
  rw [withdrawalGroup_txns]
  intro t ht
  obtain ⟨i, hi⟩ := List.mem_iff_getElem?.mp ht
  obtain ⟨t', ht', hsender, hkind⟩ := getElem?_assignGroup hi
  refine IsCall.congr ?_ hsender hkind
  rcases mem_filled (List.mem_of_getElem? ht') with hhead | ⟨i, rfl⟩
  · rw [List.mem_singleton.mp hhead]
    exact call_isCall callFee args [w.address] []
  · exact noop_isCall i

theorem groups_assembled (b : Builder) (params : ChainParams) :
    (∀ amount depositor note,
      (∃ g, b.deposit amount depositor note params = .ok g) ↔
        0 < amount ∧ b.config.depositMinimum ≤ amount ∧ note.amount = amount ∧
          2 ≤ b.config.groupSize ∧
          b.config.depositFeeMultiplier.toNat * params.minFee.toNat < 2 ^ 64) ∧
      (∀ amount depositor note g, b.deposit amount depositor note params = .ok g →
        b.Assembled params b.config.depositFeeMultiplier g.groupId g.txns ∧
          (∃ t, g.txns[1]? = some t ∧ b.IsPayment depositor amount t) ∧
          ∀ i t, i ≠ 1 → g.txns[i]? = some t → b.IsCall t) ∧
      ∀ w root proof g, b.withdrawal w root proof params = .ok g →
        b.Assembled params b.config.withdrawalFeeMultiplier g.groupId g.txns ∧
          ∀ t ∈ g.txns, b.IsCall t :=
  ⟨fun _ _ _ => deposit_exists_iff, fun _ _ _ _ h => ⟨deposit_assembled h, deposit_senders h⟩,
    fun _ _ _ _ h => ⟨withdrawal_assembled h, withdrawal_senders h⟩⟩

end Groups

namespace EightMembers

def builder : Builder := { pool := ⟨7, ⟨Block.zero 32⟩, ⟨Block.fill 32 1⟩, [6, 129, 1]⟩ }

def chain : ChainParams := ⟨0, 1000, 1, 1001, "net", Block.zero 32⟩

def note : Note := { amount := 5000000, k := Block.zero 31, r := Block.zero 31 }

def spend : Withdrawal :=
  ⟨Amount.ofUnits 100000, Amount.ofUnits 75300, ⟨Block.zero 32⟩, { note with leafIndex := 3 }, note⟩

theorem eight_members :
    (∃ g, builder.deposit 5000000 ⟨Block.zero 32⟩ note chain = .ok g ∧ g.txns.length = 8 ∧
      (g.txns.map (·.fee.toNat)).sum = 56000 ∧
      ∀ t u, g.txns[6]? = some t → g.txns[7]? = some u → t.encode ≠ u.encode) ∧
    ∃ g, builder.withdrawal spend (Block.zero 32) [] chain = .ok g ∧ g.txns.length = 8 ∧
      (g.txns.map (·.fee.toNat)).sum = 60000 ∧ ∀ t ∈ g.txns, builder.IsCall t := by
  obtain ⟨hexists, hdeposit, hwithdrawal⟩ := groups_assembled builder chain
  constructor
  · obtain ⟨g, hg⟩ := (hexists 5000000 ⟨Block.zero 32⟩ note).mpr (by decide)
    obtain ⟨hassembled, -⟩ := hdeposit _ _ _ _ hg
    exact ⟨g, hg, hassembled.size, hassembled.fees, fun t u ht hu =>
      (hassembled.apart 6 7 t u (by decide) (by decide) ht hu).1⟩
  · have hwords : Abi.proofWords [] = .ok [] := by simp [Abi.proofWords, groups]
    have hbudget : builder.withdrawalBudget chain = some (60000, 75300) := by decide
    obtain ⟨g, hg⟩ := withdrawal_of spend (Block.zero 32) rfl hbudget (UInt64.le_refl 75300)
      hwords (by decide)
    obtain ⟨hassembled, hcalls⟩ := hwithdrawal _ _ _ _ hg
    exact ⟨g, hg, hassembled.size, hassembled.fees, hcalls⟩

end EightMembers

end Builder

end ShieldedPool.Ledger
