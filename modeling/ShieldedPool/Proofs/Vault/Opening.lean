import ShieldedPool.Vault

namespace ShieldedPool.Vault

theorem Salsa20.xor_xor {bs stream : Bytes} (h : bs.length = stream.length) :
    xor (xor bs stream) stream = bs := by
  unfold xor
  induction bs generalizing stream with
  | nil => rfl
  | cons b bs ih =>
    cases stream with
    | nil => cases h
    | cons k stream =>
      have hrest := ih (Nat.succ.inj h)
      rw [List.zipWith_cons_cons, List.zipWith_cons_cons, hrest, UInt8.xor_assoc, UInt8.xor_self,
        UInt8.xor_zero]

namespace Box

variable (key : Word) (nonce : Block 24)

theorem length_hide (message : Bytes) : (hide key nonce message).length = message.length := by
  rw [hide, Salsa20.xor, List.length_zipWith, List.length_drop, Salsa20.length_keyStream]
  omega

theorem length_enclose (message : Bytes) :
    (enclose key nonce message).length = tagSize + message.length := by
  rw [enclose, List.length_append, Block.length_eq, length_hide, tagSize]

theorem hide_hide (message : Bytes) : hide key nonce (hide key nonce message) = message := by
  have hlength := length_hide key nonce message
  have hstream : message.length =
      ((Salsa20.keyStream key nonce (32 + message.length)).drop 32).length := by
    rw [List.length_drop, Salsa20.length_keyStream]
    omega
  rw [hide, hlength]
  exact Salsa20.xor_xor hstream

theorem open?_enclose (message : Bytes) :
    open? key nonce (enclose key nonce message) = some message := by
  have htag := (Poly1305.tag (authenticatorKey key nonce) (hide key nonce message)).length_eq
  unfold open? enclose
  dsimp only
  rw [List.drop_left' htag, List.take_left' htag, if_pos rfl, hide_hide]

theorem open?_eq_some_iff {box message : Bytes} :
    open? key nonce box = some message ↔ box = enclose key nonce message := by
  constructor
  · intro h
    unfold open? at h
    dsimp only at h
    split at h
    · rename_i htag
      obtain rfl : hide key nonce (box.drop 16) = message := Option.some.inj h
      rw [enclose, hide_hide, ← htag, List.take_append_drop]
    · cases h
  · rintro rfl
    exact open?_enclose key nonce message

end Box

theorem decrypt_parts (secret : Secret) (peer : Word) (nonce : Block 24) {box : Bytes}
    (h : tagSize ≤ box.length) : decrypt secret (peer.bytes ++ nonce.bytes ++ box) =
      (Box.open? (Box.sharedKey secret.key peer) nonce box).elim (.error .authenticationFailure)
        .ok := by
  have hlong : ¬ (peer.bytes ++ nonce.bytes ++ box).length < headerSize + tagSize := by
    rw [List.length_append, List.length_append, peer.length_eq, nonce.length_eq, headerSize]
    omega
  have hpeer : Block.ofBytes? 32 ((peer.bytes ++ nonce.bytes ++ box).take 32) = some peer := by
    rw [List.append_assoc]
    exact Block.ofBytes?_eq_some_iff.mpr (List.take_left' peer.length_eq)
  have hnonce : Block.ofBytes? 24 (((peer.bytes ++ nonce.bytes ++ box).drop 32).take 24) =
      some nonce := by
    rw [List.append_assoc, List.drop_left' peer.length_eq]
    exact Block.ofBytes?_eq_some_iff.mpr (List.take_left' nonce.length_eq)
  have hbox : (peer.bytes ++ nonce.bytes ++ box).drop headerSize = box :=
    List.drop_left' (by rw [List.length_append, peer.length_eq, nonce.length_eq, headerSize])
  unfold decrypt
  rw [if_neg hlong, hpeer, hnonce, hbox]
  dsimp only
  cases Box.open? (Box.sharedKey secret.key peer) nonce box with
  | none => rfl
  | some message => rfl

theorem decrypt_enclose {secret : Secret} {peer key : Word}
    (h : Box.sharedKey secret.key peer = key) (nonce : Block 24) (message : Bytes) :
    decrypt secret (peer.bytes ++ nonce.bytes ++ Box.enclose key nonce message) = .ok message := by
  have htag : tagSize ≤ (Box.enclose key nonce message).length := by
    rw [Box.length_enclose]
    omega
  rw [decrypt_parts secret peer nonce htag, h, Box.open?_enclose, Option.elim_some]

theorem length_sealWith (recipient : PublicKey) (ephemeral : Word) (nonce : Block 24)
    (message : Bytes) :
    (sealWith recipient ephemeral nonce message).length = message.length + 72 := by
  rw [sealWith, List.length_append, List.length_append, Block.length_eq, Block.length_eq,
    Box.length_enclose, tagSize]
  omega

theorem encrypt_eq_ok {recipient : PublicKey} {message blob : Bytes}
    {source rest : Random.Source} (h : encrypt recipient message source = (.ok blob, rest)) :
    ∃ ephemeral nonce, blob = sealWith recipient ephemeral nonce message := by
  unfold encrypt at h
  split at h
  · cases h
  · split at h
    · cases h
    · cases h
      exact ⟨_, _, rfl⟩

theorem encrypt_of (recipient : PublicKey) (message : Bytes) {source : Random.Source}
    (h : ∀ i, source.fails i = false) :
    ∃ blob rest, encrypt recipient message source = (.ok blob, rest) := by
  have hdraw (later : Random.Source) (heq : later.fails = source.fails) (m : Nat) :
      later.draw m = (some (later.read m),
        { later with position := later.position + m, draws := later.draws + 1 }) := by
    unfold Random.Source.draw
    rw [heq, h, if_neg Bool.false_ne_true]
  unfold encrypt
  rw [hdraw source rfl]
  dsimp only
  rw [hdraw]
  · exact ⟨_, _, rfl⟩
  · rfl

/-- A secret and an ephemeral key come to one shared key from either side. -/
def Agree (secret : Secret) (recipient : PublicKey) (ephemeral : Word) : Prop :=
  Box.sharedKey secret.key (Curve25519.publicKey ephemeral) = Box.sharedKey ephemeral recipient.key

theorem decrypt_sealWith {secret : Secret} {recipient : PublicKey} {ephemeral : Word}
    (h : Agree secret recipient ephemeral) (nonce : Block 24) (message : Bytes) :
    decrypt secret (sealWith recipient ephemeral nonce message) = .ok message :=
  decrypt_enclose h nonce message

end ShieldedPool.Vault
