import ShieldedPool.Ledger.Mock
import ShieldedPool.Ledger.Script
import ShieldedPool.Main
import ShieldedPool.Proofs.Ledger.Confirmation
import ShieldedPool.Proofs.Store.Registration
import ShieldedPool.Server.Start
import ShieldedPool.Proofs.Pool.Settlement
import ShieldedPool.Proofs.Pool.Requests
import ShieldedPool.Proofs.Pool.Aftermath
import ShieldedPool.Proofs.Pool.Backing
import ShieldedPool.Proofs.Ledger.Signed
import ShieldedPool.Proofs.Pool.Interleaving
import ShieldedPool.Proofs.Pool.DepositTokens
import ShieldedPool.Proofs.Pool.NoteLoss
import ShieldedPool.Proofs.Pool.HonestDeposit
import ShieldedPool.Proofs.Pool.Rejection
import ShieldedPool.Proofs.Ledger.Disclosure
import ShieldedPool.Proofs.Store.OnePass
import ShieldedPool.Proofs.Store.Promotion
import ShieldedPool.Proofs.Pool.Convergence
import ShieldedPool.Proofs.Pool.Outcomes
import ShieldedPool.Proofs.Funds.Accounting
import ShieldedPool.Proofs.Sessions
import ShieldedPool.Proofs.Pool.Guards
import ShieldedPool.Proofs.Pool.Witness
import ShieldedPool.Proofs.Store.Recording
import ShieldedPool.Proofs.Ledger.GroupBinding
import ShieldedPool.Proofs.Store.Readback
import ShieldedPool.Proofs.Pool.Preparation
import ShieldedPool.Proofs.Pool.Provenance
import ShieldedPool.Proofs.Tree.Complete
import ShieldedPool.Proofs.Withdrawal.Maximum
import ShieldedPool.Proofs.Ledger.Waiting
import ShieldedPool.Proofs.Tree.Binding
import ShieldedPool.Proofs.Ledger.Assembly
import ShieldedPool.Proofs.Ledger.Canonical
import ShieldedPool.Proofs.Ledger.Affordability
import ShieldedPool.Proofs.Pool.Spelling
import ShieldedPool.Proofs.Amount
import ShieldedPool.Proofs.Hash.Permutation
import ShieldedPool.Proofs.Vault.Sealing
