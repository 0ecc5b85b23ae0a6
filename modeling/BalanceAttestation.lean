import BalanceAttestation.GateErrors
import BalanceAttestation.InMemory
import BalanceAttestation.Envelope
import BalanceAttestation.WakuRest
import BalanceAttestation.Mailbox
import BalanceAttestation.NullifierIdentity
import BalanceAttestation.PrivacyScript
import BalanceAttestation.PythonBytes
import BalanceAttestation.GateContexts
import BalanceAttestation.PremiumFeatures
import BalanceAttestation.ChatGate
import BalanceAttestation.JournalPrivacy
import BalanceAttestation.GovernanceTally
import BalanceAttestation.ClaimOnce
import BalanceAttestation.SequencerClient
import BalanceAttestation.DeployedGuest
import BalanceAttestation.GovernanceGate
import BalanceAttestation.MarkerChain
import BalanceAttestation.NostrGate
import BalanceAttestation.GateAgreement
import BalanceAttestation.WitnessCodec
import BalanceAttestation.WakuWire
import BalanceAttestation.WakuTopics
import BalanceAttestation.SerdeJson
import BalanceAttestation.ProofDecoding
import BalanceAttestation.AccountSnapshots
import BalanceAttestation.OnchainProofScript
import BalanceAttestation.DemoRequests
import BalanceAttestation.MerkleBinding
import BalanceAttestation.BasecampBridge
import BalanceAttestation.Base58Ids
import BalanceAttestation.GatedDelivery
import BalanceAttestation.RootFreshness
import BalanceAttestation.AttestTool
import BalanceAttestation.OnchainVerdict
import BalanceAttestation.CredentialLifecycle
import BalanceAttestation.OnchainLifecycle
import BalanceAttestation.CuBench
import BalanceAttestation.InstructionWords
