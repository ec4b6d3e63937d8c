import ShieldedPool.Groups
import ShieldedPool.Ledger.Abi
import ShieldedPool.Proofs.Ledger.MessagePack

namespace ShieldedPool.Ledger.Abi

open MessagePack (sizeLimit)

theorem length_words (ws : List Word) : (ws.flatMap Block.bytes).length = 32 * ws.length := by
  induction ws with
  | nil => rfl
  | cons w ws ih =>
    rw [List.flatMap_cons, List.length_append, w.length_eq, ih, List.length_cons]
    omega

theorem wordArray_eq_ok {ws : List Word} {bs : Bytes} (h : wordArray ws = .ok bs) :
    bs = Bytes.natBE 2 ws.length ++ ws.flatMap Block.bytes ∧ ws.length < 65536 := by
  unfold wordArray at h
  split at h
  case isTrue hcount => cases h; exact ⟨rfl, hcount⟩
  case isFalse => cases h

theorem length_wordArray {ws : List Word} {bs : Bytes} (h : wordArray ws = .ok bs) :
    bs.length < sizeLimit := by
  obtain ⟨rfl, hcount⟩ := wordArray_eq_ok h
  rw [List.length_append, Bytes.length_natBE, length_words, sizeLimit]
  omega

theorem length_selector (signature : String) : (selector signature).length < sizeLimit :=
  Nat.lt_of_le_of_lt (List.length_take_le 4 _) (by decide)

theorem words_injective {ws vs : List Word}
    (h : ws.flatMap Block.bytes = vs.flatMap Block.bytes) : ws = vs := by
  have hlength : ws.length = vs.length := by
    have := congrArg List.length h
    rw [length_words, length_words] at this
    omega
  induction ws generalizing vs with
  | nil => exact (List.eq_nil_of_length_eq_zero hlength.symm).symm
  | cons w ws ih =>
    cases vs with
    | nil => cases hlength
    | cons v vs =>
      rw [List.flatMap_cons, List.flatMap_cons] at h
      obtain ⟨hword, hrest⟩ := List.append_inj h (w.length_eq.trans v.length_eq.symm)
      rw [Block.eq_of_bytes_eq hword, ih hrest (Nat.succ.inj hlength)]

theorem wordArray_injective {ws vs : List Word} {bs : Bytes} (hws : wordArray ws = .ok bs)
    (hvs : wordArray vs = .ok bs) : ws = vs := by
  obtain ⟨hbytes, -⟩ := wordArray_eq_ok hws
  obtain ⟨hsame, -⟩ := wordArray_eq_ok hvs
  rw [hbytes] at hsame
  have hsize : (Bytes.natBE 2 ws.length).length = (Bytes.natBE 2 vs.length).length := by
    rw [Bytes.length_natBE, Bytes.length_natBE]
  exact words_injective (List.append_inj hsame hsize).2

theorem filterMap_blocks {n : Nat} {gs : List Bytes} (h : ∀ g ∈ gs, g.length = n) :
    (gs.filterMap (Block.ofBytes? n)).map Block.bytes = gs := by
  induction gs with
  | nil => rfl
  | cons g gs ih =>
    have hg : Block.ofBytes? n g = some ⟨g, h g (List.mem_cons_self ..)⟩ :=
      Block.ofBytes?_eq_some_iff.mpr rfl
    rw [List.filterMap_cons, hg, List.map_cons, ih fun x hx => h x (List.mem_cons_of_mem g hx)]

theorem exists_wordArray_iff {ws : List Word} :
    (∃ bs, wordArray ws = .ok bs) ↔ ws.length ≤ 65535 := by
  rw [← Nat.lt_succ_iff]
  unfold wordArray
  split <;> simp [*]

theorem wordArray_inj {ws vs : List Word} (h : ws.length ≤ 65535) :
    wordArray ws = wordArray vs ↔ ws = vs := by
  refine ⟨fun hsame => ?_, congrArg wordArray⟩
  obtain ⟨bs, hws⟩ := exists_wordArray_iff.mpr h
  exact wordArray_injective hws (hsame ▸ hws)

theorem exists_proofWords_iff {proof : Bytes} :
    (∃ ws, proofWords proof = .ok ws) ↔ 32 ∣ proof.length := by
  rw [Nat.dvd_iff_mod_eq_zero]
  unfold proofWords
  split <;> simp [*]

theorem proofWords_eq_ok {proof : Bytes} {ws : List Word} (h : proofWords proof = .ok ws) :
    ws.flatMap Block.bytes = proof := by
  unfold proofWords at h
  split at h
  case isTrue hwhole =>
    cases h
    have hfull : ∀ g ∈ groups 31 proof, g.length = 32 := fun g hg => length_of_mem_groups hwhole hg
    rw [List.flatMap_def, filterMap_blocks hfull, flatten_groups]
  case isFalse => cases h

theorem boolean_injective {a b : Bool} (h : boolean a = boolean b) : a = b := by
  cases a <;> cases b <;> first | rfl | cases h

theorem decodeReturn_encodeReturn (leaf : UInt64) (root : Word) :
    decodeReturn (encodeReturn leaf root) = some (leaf, root) := by
  have hsize : (Bytes.ofUInt64 leaf).length = 8 := Bytes.length_natBE 8 _
  have hmark : returnMark.length = 4 := rfl
  have hlength : (encodeReturn leaf root).length = 44 := by
    rw [encodeReturn, List.length_append, List.length_append, hsize, root.length_eq, hmark]
  have htake : (encodeReturn leaf root).take 4 = returnMark := by
    rw [encodeReturn, List.append_assoc, List.take_left' hmark]
  have hrest : (encodeReturn leaf root).drop 4 = Bytes.ofUInt64 leaf ++ root.bytes := by
    rw [encodeReturn, List.append_assoc, List.drop_left' hmark]
  have hroot : (encodeReturn leaf root).drop 12 = root.bytes := by
    rw [← List.drop_drop (i := 8) (j := 4), hrest, List.drop_left' hsize]
  rw [decodeReturn, if_pos ⟨hlength, htake⟩, hroot, hrest, List.take_left' hsize,
    Block.ofBytes?_eq_some_iff.mpr rfl, Bytes.toUInt64_ofUInt64]
  rfl

theorem decodeReturn_eq_some_iff {log : Bytes} {leaf : UInt64} {root : Word} :
    decodeReturn log = some (leaf, root) ↔ log = encodeReturn leaf root := by
  constructor
  · intro h
    unfold decodeReturn at h
    split at h
    case isTrue hform =>
      obtain ⟨hlength, hmark⟩ := hform
      obtain ⟨root', hroot, hpair⟩ := Option.map_eq_some_iff.mp h
      cases hpair
      have hroot : log.drop 12 = root.bytes := Block.ofBytes?_eq_some_iff.mp hroot
      have hleaf : ((log.drop 4).take 8).length = 8 := by simp [hlength]
      rw [encodeReturn, Bytes.ofUInt64_toUInt64 hleaf, ← hmark, ← hroot,
        ← List.drop_drop (i := 8) (j := 4), List.append_assoc, List.take_append_drop,
        List.take_append_drop]
    case isFalse => cases h
  · rintro rfl
    exact decodeReturn_encodeReturn leaf root

def Foreign (log : Bytes) : Prop := ∀ leaf root, log ≠ encodeReturn leaf root

theorem decodeReturn_eq_none_iff {log : Bytes} : decodeReturn log = none ↔ Foreign log := by
  simp [Foreign, Option.eq_none_iff_forall_ne_some, decodeReturn_eq_some_iff]

theorem leafIndexOfLogs_eq_some_iff {logs : List Bytes} {leaf : UInt64} :
    leafIndexOfLogs logs = some leaf ↔ ∃ before root after,
      logs = before ++ encodeReturn leaf root :: after ∧ ∀ log ∈ after, Foreign log := by
  constructor
  · intro h
    obtain ⟨⟨_, root⟩, hfind, rfl⟩ := Option.map_eq_some_iff.mp h
    -- The logs are searched from the end, so the ones before the find came later.
    obtain ⟨after, log, before, hlogs, hlog, hafter⟩ := List.findSome?_eq_some_iff.mp hfind
    refine ⟨before.reverse, root, after.reverse, ?_, fun log hmem => ?_⟩
    · rw [← decodeReturn_eq_some_iff.mp hlog]
      simpa using congrArg List.reverse hlogs
    · exact decodeReturn_eq_none_iff.mp (hafter log (List.mem_reverse.mp hmem))
  · rintro ⟨before, root, after, rfl, hafter⟩
    have hnone : after.reverse.findSome? decodeReturn = none := by
      rw [List.findSome?_eq_none_iff]
      exact fun log hmem => decodeReturn_eq_none_iff.mpr (hafter log (List.mem_reverse.mp hmem))
    simp [leafIndexOfLogs, hnone, decodeReturn_encodeReturn]

theorem leafIndexOfLogs_encodeReturn (leaf : UInt64) (root : Word) :
    leafIndexOfLogs [encodeReturn leaf root] = some leaf :=
  leafIndexOfLogs_eq_some_iff.mpr ⟨[], root, [], rfl, by simp⟩

theorem calls_read_one_way :
    (∀ logs leaf, leafIndexOfLogs logs = some leaf ↔ ∃ before root after,
      logs = before ++ encodeReturn leaf root :: after ∧ ∀ log ∈ after, Foreign log) ∧
    (∀ log leaf root, decodeReturn log = some (leaf, root) ↔ log = encodeReturn leaf root) ∧
    (∀ ws, (∃ bs, wordArray ws = .ok bs) ↔ ws.length ≤ 65535) ∧
    (∀ ws vs : List Word, ws.length ≤ 65535 → (wordArray ws = wordArray vs ↔ ws = vs)) ∧
    (∀ proof, (∃ ws, proofWords proof = .ok ws) ↔ 32 ∣ proof.length) ∧
    ∀ proof ws, proofWords proof = .ok ws → ws.flatMap Block.bytes = proof :=
  ⟨fun _ _ => leafIndexOfLogs_eq_some_iff, fun _ _ _ => decodeReturn_eq_some_iff,
    fun _ => exists_wordArray_iff, fun _ _ => wordArray_inj, fun _ => exists_proofWords_iff,
    fun _ _ => proofWords_eq_ok⟩

end ShieldedPool.Ledger.Abi
