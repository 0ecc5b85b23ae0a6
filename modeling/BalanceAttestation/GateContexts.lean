import BalanceAttestation.AttestCli
import BalanceAttestation.ChatGate
import BalanceAttestation.NostrGate
import BalanceAttestation.PremiumFeatures

/-! The four families of contexts the repository ships. Each hashes a tag of its
family before the argument, and no tag is the start of another. -/

namespace BalanceAttestation

open ByteLayout Checks VerifierOffchain

inductive ContextFamily
  | label
  | group
  | tier
  | relay
  deriving DecidableEq

def ContextFamily.tag : ContextFamily → List UInt8
  | label => ascii "/lp-0005/v0.1/context/"
  | group => ascii "/lp-0005/integ/chat-gate-v1/"
  | tier => ascii "/lp-0005/integ/premium-features-v1/tier/"
  | relay => ascii "nostr-auth-gate/v1/"

inductive GateContext
  | label (s : String)
  | group (groupId : String)
  | tier (tier : Tier)
  | relay (relayId : String)
  deriving DecidableEq

namespace GateContext

def family : GateContext → ContextFamily
  | label _ => .label
  | group _ => .group
  | tier _ => .tier
  | relay _ => .relay

def bytes : GateContext → List UInt8
  | label s => AttestCli.contextBytes s
  | group groupId => groupContextBytes groupId
  | tier t => t.contextBytes
  | relay relayId => ascii "nostr-auth-gate/v1/" ++ relayId.toUTF8.toList

def id (sha256 : HashFn) : GateContext → Bytes 32
  | label s => AttestCli.contextIdFrom sha256 s
  | group groupId => groupContextId sha256 groupId
  | tier t => t.contextId sha256
  | relay relayId => contextIdForRelay sha256 relayId

end GateContext

theorem ContextFamily.prefixFree_tag : PrefixFree ContextFamily.tag := by
  refine prefixFree_of_tags ?_
  intro f f'
  cases f <;> cases f' <;> decide +kernel

theorem Tier.contextBytes_injective : Function.Injective Tier.contextBytes := by
  intro t t'
  cases t <;> cases t' <;> decide +kernel

namespace GateContext

theorem id_eq (sha256 : HashFn) (c : GateContext) : c.id sha256 = sha256 c.bytes := by
  cases c <;> rfl

theorem tag_prefix (c : GateContext) : c.family.tag <+: c.bytes := by
  cases c <;> exact List.prefix_append _ _

theorem family_eq {c c' : GateContext} (h : c.bytes = c'.bytes) : c.family = c'.family := by
  obtain ⟨rest, hrest⟩ := c.tag_prefix
  obtain ⟨rest', hrest'⟩ := c'.tag_prefix
  exact (ContextFamily.prefixFree_tag (hrest.trans (h.trans hrest'.symm))).1

theorem bytes_injective : Function.Injective GateContext.bytes := by
  intro c c' h
  have hfamily := family_eq h
  -- The twelve mixed pairs fall to the families.
  cases c <;> cases c' <;> try (simp [family] at hfamily; done)
  case label.label s s' => rw [utf8_injective (List.append_cancel_left h)]
  case group.group g g' => rw [utf8_injective (List.append_cancel_left h)]
  case tier.tier t t' => rw [Tier.contextBytes_injective h]
  case relay.relay r r' => rw [utf8_injective (List.append_cancel_left h)]

theorem eq_or_collide {sha256 : HashFn} {c c' : GateContext} (h : c.id sha256 = c'.id sha256) :
    c = c' ∨ Collision sha256 c.bytes c'.bytes := by
  rw [id_eq, id_eq] at h
  exact (eq_or_collision h).imp_left fun hh => bytes_injective hh

end GateContext

theorem verifyCredential_contextMismatch {sha256 : HashFn} {k256 : K256} {risc0 : Risc0}
    {receipt : risc0.Receipt} {nonce : Bytes 32} {signatureDer : List UInt8} {ctx : Bytes 32}
    {floor : U128} {j : PublicJournal} (hreceipt : verifyReceipt risc0 receipt = .ok j)
    (hne : j.contextId ≠ ctx) :
    verifyCredential sha256 k256 risc0 receipt nonce signatureDer ctx floor =
      .error .contextMismatch := by
  rw [verifyCredential, hreceipt]
  exact rejectIf_bind_error.mpr (.inl ⟨hne, rfl⟩)

/-- The strings hashed by the four families are equal only for one family and one argument; so a
credential accepted for one context is, short of a collision between the two strings, refused
as another gate's by every other context, whatever its nonce, signature and floor. -/
theorem contexts_separated (sha256 : HashFn) (k256 : K256) (risc0 : Risc0) :
    (∀ c c' : GateContext, c.bytes = c'.bytes → c = c') ∧
    (∀ c : GateContext, c.id sha256 = sha256 c.bytes) ∧
    ∀ (c : GateContext) (receipt : risc0.Receipt) (nonce : Bytes 32) (signatureDer : List UInt8)
        (floor : U128) (j : PublicJournal),
      verifyCredential sha256 k256 risc0 receipt nonce signatureDer (c.id sha256) floor = .ok j →
      ∀ c' : GateContext, c' ≠ c → Collision sha256 c.bytes c'.bytes ∨
        ∀ (nonce' : Bytes 32) (signatureDer' : List UInt8) (floor' : U128),
          verifyCredential sha256 k256 risc0 receipt nonce' signatureDer' (c'.id sha256) floor' =
            .error .contextMismatch := by
  refine ⟨fun _ _ h => GateContext.bytes_injective h, GateContext.id_eq sha256, ?_⟩
  intro c receipt nonce signatureDer floor j hok c' hne
  obtain ⟨hreceipt, hctx, _, _⟩ := verifyCredential_eq_ok.mp hok
  by_cases hid : c.id sha256 = c'.id sha256
  · exact .inl ((GateContext.eq_or_collide hid).resolve_left hne.symm)
  · refine .inr ?_
    intro nonce' signatureDer' floor'
    exact verifyCredential_contextMismatch hreceipt (hctx ▸ hid)

end BalanceAttestation
