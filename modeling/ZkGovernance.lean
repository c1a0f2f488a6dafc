import ZkGovernance.Abi.BigEndian
import ZkGovernance.Abi.Encoding
import ZkGovernance.Abi.ByteOrder
import ZkGovernance.Semantics.Steps
import ZkGovernance.Semantics.Except
import ZkGovernance.Semantics.Ledger
import ZkGovernance.Hashing.Binding
import ZkGovernance.Solidity.Arith
import ZkGovernance.Plugin.Types
import ZkGovernance.Plugin.MajorityVotingBase
import ZkGovernance.Plugin.RiscVotingProtocolPlugin
import ZkGovernance.Plugin.Journal
import ZkGovernance.Steel.Commitment
import ZkGovernance.Risc0.MockVerifier
import ZkGovernance.Risc0.Verifiers
import ZkGovernance.Risc0.Groth16
import ZkGovernance.Risc0.StructHash
import ZkGovernance.Risc0.Digests
import ZkGovernance.Risc0.Groth16Verifier
import ZkGovernance.Plugin.Deployment
import ZkGovernance.Plugin.Setup
import ZkGovernance.Plugin.Calls
import ZkGovernance.Plugin.Voting
import ZkGovernance.Guest.Strategies
import ZkGovernance.Guest.VotingProtocol
import ZkGovernance.Guest.ExecutionProtocol
import ZkGovernance.Guest.Delegation
import ZkGovernance.Host.Strategies
import ZkGovernance.Token.ERC20
import ZkGovernance.System.Journals
import ZkGovernance.System.Tally
import ZkGovernance.System.Snapshot
import ZkGovernance.System.Store
import ZkGovernance.System.Slots
import ZkGovernance.System.Execution
import ZkGovernance.System.Supply
import ZkGovernance.System.Signing
import ZkGovernance.System.Groth16
import ZkGovernance.System.VerifierStack
