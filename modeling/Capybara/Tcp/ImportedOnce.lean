import Capybara.Tcp.Ownership

/-!
# Every export is imported once

A network that repeats messages may deliver a state again after it has been imported. The
record of the client ignores it, but an accept closes this record, and a repeated request
opens another one, which takes the repeated state for a new one. The connection is then at
two servers if it has moved on in between.

As long as no repeated state meets a record that awaits one, and a client has one connection
at a time, one server at most has the connection, and each import is of an export of its
own. Some exports are not imported: their state is lost, or on its way.
-/

namespace Capybara

namespace Cluster

variable {ι κ ρ : Type} [DecidableEq ι] [Fintype ι] [CongestionControl κ] [RtoCalculator ρ]
  {profile : Profile} {past : List (Transition ι κ ρ)} {cluster : Cluster ι κ ρ}
  {ports : ι → EphemeralPorts} {addresses : ι → MacAddress × Ipv4Addr} {tcpConfig : ι → TcpConfig}

/-- Single ownership and single import. A client has one connection at a time; no state is
delivered again to a record that awaits one, whatever else is repeated or made up. Then at
most one server has the connection of a client, and no export is imported twice.

Proof: the invariant `Owned` of the client. Where its connection rests one server at most
holds it, and where it travels none does; its imports are matched by its exports, without
the last one where it travels. -/
theorem imported_once (run : Run profile (new ports addresses tcpConfig) past cluster)
    (kept : Runs.Meets Kept past) (alone : ∀ transition ∈ past, Alone transition)
    (client : SocketAddrV4) :
    cluster.held client ≤ 1 ∧ Matched profile (departures client past) (arrivals client past) := by
  obtain ⟨-, owned, -⟩ := run_owned run kept alone
  refine ⟨?_, (owned client).matched⟩
  obtain ⟨-, single, -⟩ | ⟨nobody, -⟩ := (owned client).phase
  · exact single
  · rw [nobody]
    exact Nat.zero_le _

/-! ## A state that arrives again -/

/-- What 10.0.0.1 has sent in the course of some actions reaches 10.0.0.3 once more. -/
def repeated (actions : List (ClusterAction Bool)) : List (ClusterAction Bool) :=
  match executePair actions with
  | .ok (_, cluster) => (cluster.servers false).tcpmig.transmitted.map fun segment =>
      .acts true (.message segment.ipv4Hdr segment.datagram)
  | .error _ => []

/-- The connection moves back to 10.0.0.1. -/
def sampleReturn : List (ClusterAction Bool) :=
  [.arrives false 0, .acts true (.migrateByQd 3), .arrives false 0, .arrives true 0,
    .arrives false 0, .arrives true 0]

/-- The connection moves to 10.0.0.3, where its state arrives again before the application
accepts it, and back. Two exports have been imported, each of them once. -/
theorem imported_once_returned :
    ∃ (past : List (Transition Bool NoCongestionControl IntegerRto))
      (cluster : Cluster Bool NoCongestionControl IntegerRto),
      Run .dev (new (fun _ => ⟨[50000]⟩) samplePair fun _ => .sample) past cluster ∧
      (∃ transition ∈ past, (strays transition.action).isSome = true) ∧
      (departures .sampleClient past).length = 2 ∧ (arrivals .sampleClient past).length = 2 ∧
      cluster.held .sampleClient ≤ 1 ∧
      Matched .dev (departures .sampleClient past) (arrivals .sampleClient past) := by
  have computed : (match executePair (sampleMove.dropLast ++ (repeated sampleMove.dropLast).drop 1 ++
        [.acts true (.accept (.sample 0) 1 3 0)] ++ sampleReturn) with
      | .ok (past, _) => decide (Runs.Meets Kept past ∧ (clients past).Nodup ∧
          (∃ transition ∈ past, (strays transition.action).isSome = true) ∧
          (departures .sampleClient past).length = 2 ∧ (arrivals .sampleClient past).length = 2)
      | .error _ => false) = true := by decide +kernel
  split at computed
  · rename_i past cluster executed
    obtain ⟨kept, once, again, departed, arrived⟩ := of_decide_eq_true computed
    have run := Runs.run_of_execute .nil executed
    obtain ⟨single, matched⟩ := imported_once run kept (alone_of_once run kept once) .sampleClient
    exact ⟨past, cluster, run, again, departed, arrived, single, matched⟩
  · cases computed

/-- The messages that reach a server have been sent by one: some are lost, some come late or
again, but none is made up. -/
def Genuine (cluster : Cluster ι κ ρ) (action : ClusterAction ι) : Prop :=
  ∀ stray ∈ strays action, ∃ server, ∃ segment ∈ (cluster.servers server).tcpmig.transmitted,
    stray.2 = (segment.ipv4Hdr, segment.datagram)

instance (cluster : Cluster ι κ ρ) (action : ClusterAction ι) : Decidable (cluster.Genuine action) :=
  inferInstanceAs (Decidable (∀ stray ∈ strays action, ∃ _, _))

/-- The connection has moved to 10.0.0.3 and back when the request and the state of the first
migration arrive at 10.0.0.3 again. It imports the first export for a second time, and both
servers have the connection. -/
theorem imported_twice :
    ∃ (past : List (Transition Bool NoCongestionControl IntegerRto))
      (cluster : Cluster Bool NoCongestionControl IntegerRto),
      Run .dev (new (fun _ => ⟨[50000]⟩) samplePair fun _ => .sample) past cluster ∧
      Runs.Meets Genuine past ∧ (clients past).Nodup ∧
      (∀ server, (cluster.servers server).tables.held .sampleClient = 1) ∧
      (departures .sampleClient past).length = 2 ∧ (arrivals .sampleClient past).length = 3 := by
  have computed : (match executePair (sampleMove ++ sampleReturn ++ repeated sampleMove) with
      | .ok (past, cluster) => decide (Runs.Meets Genuine past ∧ (clients past).Nodup ∧
          (∀ server, (cluster.servers server).tables.held .sampleClient = 1) ∧
          (departures .sampleClient past).length = 2 ∧ (arrivals .sampleClient past).length = 3)
      | .error _ => false) = true := by decide +kernel
  split at computed
  · rename_i past cluster executed
    exact ⟨past, cluster, Runs.run_of_execute .nil executed, of_decide_eq_true computed⟩
  · cases computed

end Cluster

end Capybara
