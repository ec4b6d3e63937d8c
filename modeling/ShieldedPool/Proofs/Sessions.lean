import Mathlib.Data.List.Induction
import ShieldedPool.Sessions

namespace ShieldedPool.Sessions

open Ledger (GroupId)

variable {δ : Type}

inductive Call (δ : Type) where
  | store (key : GroupId) (data : δ)
  | retrieve (key : GroupId)
  | take (key : GroupId)
  | delete (key : GroupId)
  | sweep

inductive Answer (δ : Type) where
  | stored (r : Except SessionError GroupId)
  | found (r : Except SessionError δ)
  | deleted
  | swept (evicted : Nat)

structure Event (δ : Type) where
  now : Nat
  call : Call δ
  answer : Answer δ

def perform (now : Nat) (t : Sessions δ) : Call δ → Answer δ × Sessions δ
  | .store key data => (.stored (t.store now key data).1, (t.store now key data).2)
  | .retrieve key => (.found (t.retrieve now key), t)
  | .take key => (.found (t.take now key).1, (t.take now key).2)
  | .delete key => (.deleted, t.delete key)
  | .sweep => (.swept (t.sweep now).1, (t.sweep now).2)

def history : List (Nat × Call δ) → Sessions δ → List (Event δ)
  | [], _ => []
  | (now, call) :: calls, t =>
    ⟨now, call, (t.perform now call).1⟩ :: history calls (t.perform now call).2

def storing (key : GroupId) (s : Session δ) : Event δ :=
  ⟨s.created, .store key s.data, .stored (.ok key)⟩

def Call.isSweep : Call δ → Bool
  | .sweep => true
  | _ => false

namespace Event

def Stores (key : GroupId) (e : Event δ) : Prop := ∃ s, e = storing key s

def Takes (key : GroupId) (e : Event δ) : Prop :=
  e.call = .take key ∧ ∃ data, e.answer = .found (.ok data)

def Ends (key : GroupId) (e : Event δ) : Prop :=
  e.Stores key ∨ e.call = .take key ∨ e.call = .delete key

def isSweep (e : Event δ) : Bool := e.call.isSweep

end Event

/-- The latest successful store of a key, with neither a take nor a delete of the key after it. -/
def Standing (past : List (Event δ)) (key : GroupId) (s : Session δ) : Prop :=
  ∃ before after, past = before ++ storing key s :: after ∧ ∀ e ∈ after, ¬ e.Ends key

def Live (ttl : Nat) (past : List (Event δ)) (now : Nat) (key : GroupId) (s : Session δ) : Prop :=
  Standing past key s ∧ isExpired ttl now s = false

/-- The answer of a call is the one that a map with expiry gives after the same past. -/
def Event.Follows (ttl : Nat) (past : List (Event δ)) (e : Event δ) : Prop :=
  match e.call with
  | .store key _ =>
    (∃ s, Live ttl past e.now key s) ∧ e.answer = .stored (.error .alreadyExists) ∨
      (∀ s, ¬ Live ttl past e.now key s) ∧ e.answer = .stored (.ok key)
  | .retrieve key | .take key =>
    (∃ s, Live ttl past e.now key s ∧ e.answer = .found (.ok s.data)) ∨
      (∀ s, ¬ Live ttl past e.now key s) ∧ e.answer = .found (.error .notFound)
  | .delete _ => e.answer = .deleted
  | .sweep => True

def Lasting (ttl : Nat) (moments : List Nat) : Prop :=
  ∀ created ∈ moments, moments.Pairwise fun a b => ttl ≤ a - created → ttl ≤ b - created

theorem lasting_of_ascending (ttl : Nat) {moments : List Nat} (h : moments.Pairwise (· ≤ ·)) :
    Lasting ttl moments := by
  intro created _
  exact h.imp fun hle hexpired => Nat.le_trans hexpired (Nat.sub_le_sub_right hle created)

theorem Lasting.sublist {ttl : Nat} {moments later : List Nat} (h : Lasting ttl moments)
    (hsub : later.Sublist moments) : Lasting ttl later :=
  fun created hcreated => (h created (hsub.subset hcreated)).sublist hsub

section Standing

variable {past : List (Event δ)} {e : Event δ} {key : GroupId} {s s' : Session δ}

theorem storing_inj {key' : GroupId} : storing key s = storing key' s' ↔ key = key' ∧ s = s' := by
  constructor
  · intro h
    simp only [storing, Event.mk.injEq, Call.store.injEq] at h
    exact ⟨h.2.1.1, by cases s; cases s'; simp_all⟩
  · rintro ⟨rfl, rfl⟩
    rfl

theorem ends_storing (key : GroupId) (s : Session δ) : (storing key s).Ends key := .inl ⟨s, rfl⟩

theorem standing_concat :
    Standing (past ++ [e]) key s ↔ e = storing key s ∨ ¬ e.Ends key ∧ Standing past key s := by
  constructor
  · rintro ⟨before, after, hpast, hafter⟩
    rcases List.eq_nil_or_concat after with rfl | ⟨after, last, rfl⟩
    · exact .inl (List.append_inj_right' hpast rfl |> List.singleton_inj.mp)
    · rw [List.concat_eq_append] at hpast hafter
      rw [← List.cons_append, ← List.append_assoc] at hpast
      obtain ⟨rfl, hlast⟩ := List.append_inj' hpast rfl
      cases hlast
      simp only [List.forall_mem_append, List.forall_mem_singleton] at hafter
      exact .inr ⟨hafter.2, before, after, rfl, hafter.1⟩
  · rintro (rfl | ⟨hends, before, after, rfl, hafter⟩)
    · exact ⟨past, [], rfl, List.forall_mem_nil _⟩
    · refine ⟨before, after ++ [e], by simp, ?_⟩
      simp only [List.forall_mem_append, List.forall_mem_singleton]
      exact ⟨hafter, hends⟩

theorem Standing.eq (h : Standing past key s) (h' : Standing past key s') : s = s' := by
  induction past using List.reverseRecOn with
  | nil =>
    obtain ⟨before, after, hpast, -⟩ := h
    simp at hpast
  | append_singleton past e ih =>
    rcases standing_concat.mp h with rfl | ⟨hends, h⟩
    · rcases standing_concat.mp h' with heq | ⟨hends, -⟩
      · exact (storing_inj.mp heq).2
      · exact absurd (ends_storing key s) hends
    · rcases standing_concat.mp h' with rfl | ⟨-, h'⟩
      · exact absurd (ends_storing key s') hends
      · exact ih h h'

theorem not_ends_of_isSweep (h : e.isSweep = true) : ¬ e.Ends key := by
  obtain ⟨now, call, answer⟩ := e
  cases call with
  | sweep => simp [Event.Ends, Event.Stores, storing]
  | _ => cases h

theorem standing_filter :
    Standing (past.filter (!·.isSweep)) key s ↔ Standing past key s := by
  induction past using List.reverseRecOn with
  | nil => rfl
  | append_singleton past e ih =>
    cases hsweep : e.isSweep with
    | true =>
      have hends : ¬ e.Ends key := not_ends_of_isSweep hsweep
      have hne : e ≠ storing key s := fun heq => hends (heq ▸ ends_storing key s)
      simp [standing_concat, hsweep, hends, hne, ih]
    | false => simp [standing_concat, hsweep, ih]

end Standing

structure Reflects (ttl : Nat) (past : List (Event δ)) (t : Sessions δ) : Prop where
  lifetime : t.ttl = ttl
  standing : ∀ key s, (key, s) ∈ t.entries → Standing past key s
  -- What stands is in the table unless it was expired at a moment of the past.
  kept : ∀ key s, Standing past key s →
    (key, s) ∈ t.entries ∨ ∃ e ∈ past, isExpired ttl e.now s = true

section Reflects

variable {ttl now : Nat} {past : List (Event δ)} {t : Sessions δ} {key : GroupId} {s : Session δ}

theorem reflects_fresh (ttl : Nat) : Reflects ttl [] ({ ttl } : Sessions δ) where
  lifetime := rfl
  standing := by intro key s h; cases h
  kept := by
    rintro key s ⟨before, after, hpast, -⟩
    simp at hpast

theorem Reflects.find?_iff (h : Reflects ttl past t) :
    t.find? key = some s ↔ (key, s) ∈ t.entries := by
  constructor
  · intro hfind
    obtain ⟨before, after, hentries, -⟩ := List.lookup_eq_some_iff.mp hfind
    simp [hentries]
  · intro hmem
    cases hfind : t.find? key with
    | none => simpa using List.lookup_eq_none_iff.mp hfind (key, s) hmem
    | some s' =>
      obtain ⟨before, after, hentries, -⟩ := List.lookup_eq_some_iff.mp hfind
      have hmem' : (key, s') ∈ t.entries := by simp [hentries]
      rw [(h.standing key s hmem).eq (h.standing key s' hmem')]

theorem mem_moments (h : Standing past key s) : s.created ∈ past.map Event.now := by
  obtain ⟨before, after, rfl, -⟩ := h
  simp [storing]

theorem Reflects.live?_iff (h : Reflects ttl past t)
    (hlasting : Lasting ttl (past.map Event.now ++ [now])) :
    t.live? now key = some s ↔ Live ttl past now key s := by
  have hlive : t.live? now key = some s ↔
      (key, s) ∈ t.entries ∧ isExpired ttl now s = false := by
    rw [← h.find?_iff, live?, h.lifetime]
    cases t.find? key with
    | none => simp
    | some s' =>
      dsimp only
      cases hexpired : isExpired ttl now s' with
      | true => simp only [if_true, reduceCtorEq, false_iff]; rintro ⟨heq, hs⟩; simp_all
      | false => simp only [Bool.false_eq_true, if_false]; constructor <;> intro heq <;> simp_all
  rw [hlive]
  constructor
  · rintro ⟨hmem, hexpired⟩
    exact ⟨h.standing key s hmem, hexpired⟩
  · rintro ⟨hstanding, hexpired⟩
    refine ⟨(h.kept key s hstanding).resolve_right ?_, hexpired⟩
    rintro ⟨e, he, hgone⟩
    have hmoment := List.mem_append_left [now] (mem_moments hstanding)
    obtain ⟨-, -, hlater⟩ := List.pairwise_append.mp (hlasting s.created hmoment)
    have hstill := hlater e.now (List.mem_map_of_mem he) now (List.mem_singleton.mpr rfl)
      (of_decide_eq_true hgone)
    simp [isExpired, hstill] at hexpired

theorem Reflects.concat {t' : Sessions δ} {e : Event δ} (h : Reflects ttl past t)
    (hlifetime : t'.ttl = t.ttl)
    (hfrom : ∀ key s, (key, s) ∈ t'.entries →
      e = storing key s ∨ ¬ e.Ends key ∧ (key, s) ∈ t.entries)
    (hstored : ∀ key s, e = storing key s → (key, s) ∈ t'.entries)
    (hleft : ∀ key s, ¬ e.Ends key → (key, s) ∈ t.entries →
      (key, s) ∈ t'.entries ∨ isExpired ttl e.now s = true) :
    Reflects ttl (past ++ [e]) t' where
  lifetime := hlifetime.trans h.lifetime
  standing := by
    intro key s hmem
    rcases hfrom key s hmem with heq | ⟨hends, hmem⟩
    · exact standing_concat.mpr (.inl heq)
    · exact standing_concat.mpr (.inr ⟨hends, h.standing key s hmem⟩)
  kept := by
    intro key s hstanding
    rcases standing_concat.mp hstanding with heq | ⟨hends, hstanding⟩
    · exact .inl (hstored key s heq)
    · rcases h.kept key s hstanding with hmem | ⟨e', he', hexpired⟩
      · rcases hleft key s hends hmem with hmem | hexpired
        · exact .inl hmem
        · exact .inr ⟨e, List.mem_concat_self, hexpired⟩
      · exact .inr ⟨e', List.mem_append_left [e] he', hexpired⟩

theorem Reflects.unchanged {e : Event δ} (h : Reflects ttl past t)
    (hends : ∀ key, ¬ e.Ends key) : Reflects ttl (past ++ [e]) t := by
  refine h.concat rfl (fun key s hmem => .inr ⟨hends key, hmem⟩) ?_ fun key s _ hmem => .inl hmem
  rintro key s rfl
  exact absurd (ends_storing key s) (hends key)

theorem Reflects.dropped {e : Event δ} (h : Reflects ttl past t) (key : GroupId)
    (hends : ∀ k, e.Ends k ↔ k = key) (hstores : ∀ k s, e ≠ storing k s) :
    Reflects ttl (past ++ [e]) (t.delete key) := by
  refine h.concat rfl ?_ (fun k s heq => absurd heq (hstores k s)) ?_
  · intro k s hmem
    obtain ⟨hmem, hne⟩ := List.mem_filter.mp hmem
    exact .inr ⟨fun hend => of_decide_eq_true hne ((hends k).mp hend), hmem⟩
  · intro k s hend hmem
    exact .inl (List.mem_filter.mpr ⟨hmem, decide_eq_true fun heq => hend ((hends k).mpr heq)⟩)

theorem Reflects.put (h : Reflects ttl past t) (key : GroupId) (s : Session δ) :
    Reflects ttl (past ++ [storing key s])
      { t with entries := (key, s) :: (t.delete key).entries } := by
  refine h.concat rfl ?_ ?_ ?_
  · intro k s' hmem
    rcases List.mem_cons.mp hmem with heq | hmem
    · cases heq
      exact .inl rfl
    · obtain ⟨hmem, hne⟩ := List.mem_filter.mp hmem
      refine .inr ⟨?_, hmem⟩
      rintro (⟨s', heq⟩ | hcall | hcall)
      · exact of_decide_eq_true hne (storing_inj.mp heq).1.symm
      · cases hcall
      · cases hcall
  · intro k s' heq
    obtain ⟨rfl, rfl⟩ := storing_inj.mp heq
    exact List.mem_cons_self
  · intro k s' hends hmem
    have hne : k ≠ key := by
      rintro rfl
      exact hends (ends_storing k s)
    exact .inl (List.mem_cons_of_mem _ (List.mem_filter.mpr ⟨hmem, decide_eq_true hne⟩))

theorem Reflects.swept (h : Reflects ttl past t) (now evicted : Nat) :
    Reflects ttl (past ++ [⟨now, .sweep, .swept evicted⟩]) (t.sweep now).2 := by
  have hends (key : GroupId) : ¬ (⟨now, .sweep, .swept evicted⟩ : Event δ).Ends key :=
    not_ends_of_isSweep rfl
  refine h.concat rfl ?_ ?_ ?_
  · intro key s hmem
    exact .inr ⟨hends key, (List.mem_filter.mp hmem).1⟩
  · intro key s heq
    exact absurd (heq ▸ ends_storing key s) (hends key)
  · intro key s _ hmem
    cases hexpired : isExpired ttl now s with
    | true => exact .inr rfl
    | false => exact .inl (List.mem_filter.mpr ⟨hmem, by simp [h.lifetime, hexpired]⟩)

theorem Reflects.perform (h : Reflects ttl past t) (now : Nat) (call : Call δ) :
    Reflects ttl (past ++ [⟨now, call, (t.perform now call).1⟩]) (t.perform now call).2 := by
  cases call with
  | store key data =>
    simp only [Sessions.perform, store]
    cases t.live? now key with
    | some s => exact h.unchanged (by simp [Event.Ends, Event.Stores, storing])
    | none => exact h.put key ⟨data, now⟩
  | retrieve key =>
    exact h.unchanged (by simp [Event.Ends, Event.Stores, storing, Sessions.perform])
  | take key =>
    refine h.dropped key (fun k => ?_) ?_
    · simp [Event.Ends, Event.Stores, storing, eq_comm]
    · simp [storing]
  | delete key =>
    refine h.dropped key (fun k => ?_) ?_
    · simp [Event.Ends, Event.Stores, storing, eq_comm]
    · simp [storing]
  | sweep => exact h.swept now _

theorem Reflects.follows (h : Reflects ttl past t)
    (hlasting : Lasting ttl (past.map Event.now ++ [now])) (call : Call δ) :
    Event.Follows ttl past ⟨now, call, (t.perform now call).1⟩ := by
  have hiff (key : GroupId) (s : Session δ) :
      t.live? now key = some s ↔ Live ttl past now key s := h.live?_iff hlasting
  cases call with
  | store key data =>
    simp only [Event.Follows, ← hiff, Sessions.perform, store]
    cases t.live? now key <;> simp
  | retrieve key =>
    simp only [Event.Follows, ← hiff, Sessions.perform, retrieve]
    cases t.live? now key <;> simp
  | take key =>
    simp only [Event.Follows, ← hiff, Sessions.perform, take, retrieve]
    cases t.live? now key <;> simp
  | delete key => rfl
  | sweep => trivial

end Reflects

section Runs

variable {ttl : Nat} {past past' : List (Event δ)} {t t' : Sessions δ}

theorem Reflects.history (h : Reflects ttl past t) (calls : List (Nat × Call δ))
    (hlasting : Lasting ttl (past.map Event.now ++ calls.map Prod.fst))
    {before after : List (Event δ)} {e : Event δ}
    (hsplit : Sessions.history calls t = before ++ e :: after) :
    e.Follows ttl (past ++ before) := by
  induction calls generalizing past t before with
  | nil => simp [Sessions.history] at hsplit
  | cons call calls ih =>
    obtain ⟨now, call⟩ := call
    rw [Sessions.history] at hsplit
    cases before with
    | nil =>
      cases hsplit
      rw [List.append_nil]
      exact h.follows (hlasting.sublist (by simp)) call
    | cons first before =>
      obtain ⟨rfl, hrest⟩ := List.cons.inj hsplit
      rw [← List.singleton_append, ← List.append_assoc]
      exact ih (h.perform now call) (by simpa using hlasting) hrest

theorem perform_congr {now : Nat} (h : ∀ key, t.live? now key = t'.live? now key) {call : Call δ}
    (hsweep : call.isSweep = false) : (t.perform now call).1 = (t'.perform now call).1 := by
  cases call with
  | store key data =>
    simp only [Sessions.perform, store, h key]
    cases t'.live? now key <;> rfl
  | retrieve key => simp only [Sessions.perform, retrieve, h key]
  | take key => simp only [Sessions.perform, take, retrieve, h key]
  | delete key => rfl
  | sweep => cases hsweep

theorem history_filter (h : Reflects ttl past t) (h' : Reflects ttl past' t')
    (hpast : past' = past.filter (!·.isSweep)) (calls : List (Nat × Call δ))
    (hlasting : Lasting ttl (past.map Event.now ++ calls.map Prod.fst)) :
    (history calls t).filter (!·.isSweep) = history (calls.filter (!·.2.isSweep)) t' := by
  induction calls generalizing past past' t t' with
  | nil => rfl
  | cons call calls ih =>
    obtain ⟨now, call⟩ := call
    have hlasting' (answer : Answer δ) :
        Lasting ttl ((past ++ [Event.mk now call answer]).map Event.now ++ calls.map Prod.fst) := by
      simpa using hlasting
    cases hsweep : call.isSweep with
    | true =>
      have hrest :=
        ih (h.perform now call) h' (by simp [hpast, Event.isSweep, hsweep]) (hlasting' _)
      simpa [history, Event.isSweep, hsweep] using hrest
    | false =>
      have hfirst : Lasting ttl (past.map Event.now ++ [now]) := hlasting.sublist (by simp)
      have hfirst' : Lasting ttl (past'.map Event.now ++ [now]) := by
        refine hfirst.sublist (List.Sublist.append_right ?_ [now])
        rw [hpast]
        exact List.filter_sublist.map Event.now
      have hlive (key : GroupId) : t.live? now key = t'.live? now key := by
        refine Option.ext fun s => ?_
        rw [h.live?_iff hfirst, h'.live?_iff hfirst', Live, Live, hpast, standing_filter]
      have hanswer := perform_congr hlive hsweep
      have hrest := ih (h.perform now call) (h'.perform now call)
        (by simp [hpast, Event.isSweep, hsweep, hanswer]) (hlasting' _)
      simpa [history, Event.isSweep, hsweep, hanswer] using hrest

theorem stores_of_takes {before between : List (Event δ)} {first second : Event δ} {key : GroupId}
    (hfirst : first.Takes key) (hsecond : second.Takes key)
    (h : second.Follows ttl (before ++ first :: between)) : ∃ e ∈ between, e.Stores key := by
  obtain ⟨hcall, data, hanswer⟩ := hsecond
  rw [Event.Follows, hcall] at h
  rcases h with ⟨s, ⟨⟨earlier, after, hpast, hafter⟩, -⟩, -⟩ | ⟨-, hnone⟩
  · have hends : first.Ends key := .inr (.inl hfirst.1)
    -- The store stands behind the first take, or the take would stand behind the store.
    rcases List.append_eq_append_iff.mp hpast with ⟨mid, hearlier, hrest⟩ | ⟨mid, -, hrest⟩
    · cases mid with
      | nil =>
        cases hrest
        cases hfirst.1
      | cons x mid =>
        obtain ⟨rfl, hbetween⟩ := List.cons.inj hrest
        refine ⟨storing key s, ?_, s, rfl⟩
        rw [hbetween]
        exact List.mem_append_right mid List.mem_cons_self
    · cases mid with
      | nil =>
        cases hrest
        cases hfirst.1
      | cons x mid =>
        obtain ⟨-, hafter'⟩ := List.cons.inj hrest
        refine absurd hends (hafter first ?_)
        rw [hafter']
        exact List.mem_append_right mid List.mem_cons_self
  · rw [hanswer] at hnone
    cases hnone

end Runs

theorem sessions_used_once {ttl : Nat} {calls : List (Nat × Call δ)}
    (h : Lasting ttl (calls.map Prod.fst)) :
    (∀ before e after, history calls { ttl } = before ++ e :: after → e.Follows ttl before) ∧
      (∀ key before first between second after,
        history calls { ttl } = before ++ first :: between ++ second :: after →
        first.Takes key → second.Takes key → ∃ e ∈ between, e.Stores key) ∧
      ∀ calls', Lasting ttl (calls'.map Prod.fst) →
        calls'.filter (!·.2.isSweep) = calls.filter (!·.2.isSweep) →
        (history calls' { ttl }).filter (!·.isSweep) =
          (history calls { ttl }).filter (!·.isSweep) := by
  have hfollows : ∀ before e after, history calls { ttl } = before ++ e :: after →
      e.Follows ttl before := fun before e after hsplit => by
    simpa using (reflects_fresh ttl).history calls (by simpa using h) hsplit
  refine ⟨hfollows, ?_, ?_⟩
  · intro key before first between second after hsplit hfirst hsecond
    exact stores_of_takes hfirst hsecond (hfollows _ second after hsplit)
  · intro calls' h' hsame
    have hfresh := reflects_fresh (δ := δ) ttl
    rw [history_filter hfresh hfresh rfl calls (by simpa using h),
      history_filter hfresh hfresh rfl calls' (by simpa using h'), hsame]

namespace TwoLives

def key : GroupId := ⟨Block.fill 32 7⟩

def firstLife : List (Nat × Call String) := [(0, .store key "a"), (3, .retrieve key)]

def secondLife : List (Nat × Call String) :=
  [(5, .store key "b"), (20, .sweep), (21, .retrieve key), (22, .store key "c")]

def calls : List (Nat × Call String) :=
  firstLife ++ (4, .take key) :: secondLife ++ [(23, .take key)]

def earlier : List (Event String) :=
  [⟨0, .store key "a", .stored (.ok key)⟩, ⟨3, .retrieve key, .found (.ok "a")⟩]

def between : List (Event String) :=
  [⟨5, .store key "b", .stored (.ok key)⟩, ⟨20, .sweep, .swept 1⟩,
    ⟨21, .retrieve key, .found (.error .notFound)⟩, ⟨22, .store key "c", .stored (.ok key)⟩]

theorem history_calls : history calls { ttl := 10 } =
    earlier ++ ⟨4, .take key, .found (.ok "a")⟩ :: between ++
      ⟨23, .take key, .found (.ok "c")⟩ :: [] := rfl

theorem sessions_used_once_each : Lasting 10 (calls.map Prod.fst) ∧
    Event.Follows 10 (earlier ++ ⟨4, .take key, .found (.ok "a")⟩ :: between)
      ⟨23, .take key, .found (.ok "c")⟩ ∧
    (∃ e ∈ between, e.Stores key) ∧
    (history (calls.filter (!·.2.isSweep)) { ttl := 10 }).filter (!·.isSweep) =
      (history calls { ttl := 10 }).filter (!·.isSweep) := by
  have hlasting : Lasting 10 (calls.map Prod.fst) := lasting_of_ascending 10 (by decide)
  obtain ⟨hfollows, htaken, hsweeps⟩ := sessions_used_once hlasting
  refine ⟨hlasting, ?_, ?_, ?_⟩
  · exact hfollows _ _ [] history_calls
  · exact htaken key earlier _ between _ [] history_calls ⟨rfl, "a", rfl⟩ ⟨rfl, "c", rfl⟩
  · exact hsweeps _ (hlasting.sublist (List.filter_sublist.map Prod.fst)) (by simp)

end TwoLives

end ShieldedPool.Sessions
