import ShieldedPool.Address
import ShieldedPool.Ledger.Error
import ShieldedPool.Text.Utf8

namespace ShieldedPool.Ledger.Abi

def selector (signature : String) : Bytes :=
  (Hash.Sha512.hash256 (Text.utf8 signature)).bytes.take 4

def wordArray (ws : List Word) : Except BuildError Bytes :=
  if ws.length < 65536 then .ok (Bytes.natBE 2 ws.length ++ ws.flatMap Block.bytes)
  else .error (.tooManyWords ws.length)

def proofWords (proof : Bytes) : Except BuildError (List Word) :=
  if proof.length % 32 = 0 then .ok ((groups 31 proof).filterMap (Block.ofBytes? 32))
  else .error (.malformedProof proof.length)

def address (a : Address) : Bytes := a.key.bytes

def account (index : UInt8) : Bytes := [index]

def boolean (b : Bool) : Bytes := [if b then 0x80 else 0x00]

def returnMark : Bytes := [0x15, 0x1f, 0x7c, 0x75]

def encodeReturn (leafIndex : UInt64) (root : Word) : Bytes :=
  returnMark ++ Bytes.ofUInt64 leafIndex ++ root.bytes

def decodeReturn (log : Bytes) : Option (UInt64 × Word) :=
  if log.length = 44 ∧ log.take 4 = returnMark then
    (Block.ofBytes? 32 (log.drop 12)).map fun root => (Bytes.toUInt64 ((log.drop 4).take 8), root)
  else none

def leafIndexOfLogs (logs : List Bytes) : Option UInt64 :=
  (logs.reverse.findSome? decodeReturn).map Prod.fst

end ShieldedPool.Ledger.Abi
