import BalanceAttestation.Envelope
import BalanceAttestation.Mailbox

/-! The in-process bus: a channel for each topic, first in, first out. It serves
the mailbox that keeps everything behind the message it hands out. -/

namespace BalanceAttestation

open Mailbox

abbrev InMemoryTransport (risc0 : Risc0) := String → List (CredentialEnvelope risc0)

inductive BusEvent (risc0 : Risc0)
  | send (topic : String) (envelope : CredentialEnvelope risc0)
  | recv (topic : String)

namespace InMemoryTransport

variable {risc0 : Risc0}

-- The map holds both ends of a channel, so no call finds one closed.
def send (topic : String) (envelope : CredentialEnvelope risc0) (bus : InMemoryTransport risc0) :
    Except TransportError Unit × InMemoryTransport risc0 :=
  (.ok (), Function.update bus topic (bus topic ++ [envelope]))

/-- The result of `recv`, none while the channel is empty: then the call waits. -/
def recv (topic : String) (bus : InMemoryTransport risc0) :
    Option (Except TransportError (Option (CredentialEnvelope risc0)) × InMemoryTransport risc0) :=
  match bus topic with
  | [] => none
  | first :: rest => some (.ok (some first), Function.update bus topic rest)

def next (bus : InMemoryTransport risc0) : BusEvent risc0 → InMemoryTransport risc0
  | .send topic envelope => (bus.send topic envelope).2
  | .recv topic =>
    match bus.recv topic with
    | none => bus
    | some (_, bus) => bus

def returned (topic : String) (bus : InMemoryTransport risc0) :
    BusEvent risc0 → List (CredentialEnvelope risc0)
  | .recv t =>
    if t = topic then
      match bus.recv topic with
      | some (.ok (some envelope), _) => [envelope]
      | _ => []
    else []
  | .send _ _ => []

def accepted (topic : String) (bus : InMemoryTransport risc0) :
    BusEvent risc0 → List (CredentialEnvelope risc0)
  | .send t envelope => if t = topic ∧ (bus.send t envelope).1.isOk then [envelope] else []
  | .recv _ => []

def op (topic : String) : BusEvent risc0 → Option (Op (CredentialEnvelope risc0))
  | .send t envelope => if t = topic then some (.post envelope) else none
  | .recv t => if t = topic then some .poll else none

variable {topic : String} {bus : InMemoryTransport risc0}

theorem next_recv (t : String) : bus.next (.recv t) = Function.update bus t (bus t).tail := by
  rw [next, recv]
  cases hbus : bus t with
  | nil => exact (Function.update_eq_self_iff.mpr hbus.symm).symm
  | cons first rest => rfl

theorem next_apply (event : BusEvent risc0) :
    bus.next event topic = after List.tail (bus topic) (op topic event) := by
  cases event with
  | send t envelope =>
    by_cases ht : t = topic
    · subst ht
      simp [next, send, op, after]
    · simp [next, send, op, after, ht, Function.update_of_ne (Ne.symm ht)]
  | recv t =>
    rw [next_recv]
    by_cases ht : t = topic
    · subst ht
      simp [op, after]
    · simp [op, after, ht, Function.update_of_ne (Ne.symm ht)]

theorem returned_eq (event : BusEvent risc0) :
    returned topic bus event = handed some (bus topic) (op topic event) := by
  cases event with
  | send t envelope => by_cases ht : t = topic <;> simp [returned, op, handed, ht]
  | recv t =>
    by_cases ht : t = topic
    · cases hbus : bus topic <;> simp [returned, recv, op, handed, ht, hbus]
    · simp [returned, op, handed, ht]

theorem accepted_eq (event : BusEvent risc0) :
    accepted topic bus event = added some (op topic event) := by
  cases event with
  | send t envelope =>
    by_cases ht : t = topic <;> simp [accepted, send, op, added, ht, Except.isOk, Except.toBool]
  | recv t => by_cases ht : t = topic <;> simp [accepted, op, added, ht]

theorem serves (topic : String) : Serves some List.tail (next : InMemoryTransport risc0 → _ → _)
    (fun bus => bus topic) (op topic) (accepted topic) (returned topic) where
  buffer_next _ event := next_apply event
  put_eq _ event := accepted_eq event
  out_eq _ event := returned_eq event

end InMemoryTransport

open InMemoryTransport in
/-- Over every run of the bus, what the topic's `recv` calls return and what the
channel still holds are what was sent, in order and once each. -/
theorem inmem_conserves {risc0 : Risc0} (topic : String) (events : List (BusEvent risc0)) :
    let empty : InMemoryTransport risc0 := fun _ => []
    along next (returned topic) empty events ++ events.foldl next empty topic =
      along next (accepted topic) empty events := by
  intro empty
  have hiff := (serves topic).conserved_iff (fun _ => List.Sublist.refl _) empty events
  simp only [List.filterMap_some] at hiff
  exact hiff.mpr fun _ _ _ _ _ => trivial

end BalanceAttestation
