import ShieldedPool.Proofs.Vault.Ladder
import ShieldedPool.Proofs.Vault.Opening

namespace ShieldedPool.Vault

theorem agree_publicKey (secret : Secret) (ephemeral : Word) :
    Agree secret secret.publicKey ephemeral := by
  rw [Agree, Box.sharedKey, Box.sharedKey, Secret.publicKey, Curve25519.multiply_publicKey_comm]

theorem exists_parts {blob : Bytes} (h : headerSize + tagSize ≤ blob.length) :
    ∃ (peer : Word) (nonce : Block 24) (box : Bytes),
      blob = peer.bytes ++ nonce.bytes ++ box ∧ tagSize ≤ box.length := by
  unfold headerSize at h
  have hpeer : (blob.take 32).length = 32 := by rw [List.length_take]; omega
  have hnonce : ((blob.drop 32).take 24).length = 24 := by
    rw [List.length_take, List.length_drop]
    omega
  refine ⟨⟨blob.take 32, hpeer⟩, ⟨(blob.drop 32).take 24, hnonce⟩, (blob.drop 32).drop 24, ?_, ?_⟩
  · rw [List.append_assoc, List.take_append_drop, List.take_append_drop]
  · rw [List.length_drop, List.length_drop]
    omega

section Blobs

variable (secret : Secret)

theorem decrypt_parts_eq_ok_iff (peer : Word) (nonce : Block 24) {box message : Bytes}
    (h : tagSize ≤ box.length) : decrypt secret (peer.bytes ++ nonce.bytes ++ box) = .ok message ↔
      box = Box.enclose (Box.sharedKey secret.key peer) nonce message := by
  rw [decrypt_parts secret peer nonce h, ← Box.open?_eq_some_iff]
  cases Box.open? (Box.sharedKey secret.key peer) nonce box <;> simp

theorem decrypt_of_short {blob : Bytes} (h : blob.length < headerSize + tagSize) :
    decrypt secret blob = .error (.malformed blob.length) := by
  rw [decrypt, if_pos h]

theorem decrypt_of_long {blob : Bytes} (h : headerSize + tagSize ≤ blob.length) :
    decrypt secret blob = .error .authenticationFailure ∨
      ∃ message, decrypt secret blob = .ok message := by
  obtain ⟨peer, nonce, box, rfl, htag⟩ := exists_parts h
  rw [decrypt_parts secret peer nonce htag]
  cases Box.open? (Box.sharedKey secret.key peer) nonce box with
  | none => exact .inl rfl
  | some message => exact .inr ⟨message, rfl⟩

theorem decrypt_eq_malformed_iff {blob : Bytes} {length : Nat} :
    decrypt secret blob = .error (.malformed length) ↔
      blob.length < headerSize + tagSize ∧ blob.length = length := by
  by_cases hshort : blob.length < headerSize + tagSize
  · simp [decrypt_of_short secret hshort, hshort]
  · refine iff_of_false (fun hfault => ?_) fun h => hshort h.1
    rcases decrypt_of_long secret (Nat.not_lt.mp hshort) with h | ⟨message, h⟩
    · rw [h] at hfault
      cases hfault
    · rw [h] at hfault
      cases hfault

theorem boxes_open :
    (∀ message source,
      ((∀ i, source.fails i = false) →
        ∃ blob rest, encrypt secret.publicKey message source = (.ok blob, rest)) ∧
      ∀ blob rest, encrypt secret.publicKey message source = (.ok blob, rest) →
        blob.length = message.length + 72 ∧ decrypt secret blob = .ok message) ∧
    ∀ blob,
      (∀ length, decrypt secret blob = .error (.malformed length) ↔
        blob.length < 72 ∧ blob.length = length) ∧
      (72 ≤ blob.length → ∃ (peer : Word) (nonce : Block 24) (box : Bytes),
        blob = peer.bytes ++ nonce.bytes ++ box ∧
        (∀ message, decrypt secret blob = .ok message ↔
          box = Box.enclose (Box.sharedKey secret.key peer) nonce message) ∧
        (decrypt secret blob = .error .authenticationFailure ∨
          ∃ message, decrypt secret blob = .ok message)) := by
  refine ⟨fun message source => ⟨encrypt_of secret.publicKey message, fun blob rest h => ?_⟩,
    fun blob => ⟨fun length => decrypt_eq_malformed_iff secret, fun hlong => ?_⟩⟩
  · obtain ⟨ephemeral, nonce, rfl⟩ := encrypt_eq_ok h
    exact ⟨length_sealWith secret.publicKey ephemeral nonce message,
      decrypt_sealWith (agree_publicKey secret ephemeral) nonce message⟩
  · obtain ⟨peer, nonce, box, rfl, htag⟩ := exists_parts hlong
    exact ⟨peer, nonce, box, rfl, fun message => decrypt_parts_eq_ok_iff secret peer nonce htag,
      decrypt_of_long secret hlong⟩

end Blobs

end ShieldedPool.Vault
