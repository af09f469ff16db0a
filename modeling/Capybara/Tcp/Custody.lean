import Capybara.Lib.Totals
import Capybara.Tcp.ConnectionTables

/-!
# Where the connections with a client are

A server has a place for every connection that it is opening, that waits to be accepted,
or that is established. Operations move connections between these places. A place is
gained only when a handshake completes, when the application connects or when a state is
imported, and the one thing that takes an established connection away is an export.
-/

namespace Capybara

open Tables

variable {κ ρ : Type}

/-- The connection that an entry of a queue is, unless it is an error. -/
def readyConnection : Except Fail (ControlBlock κ ρ) → Option (ControlBlock κ ρ)
  | .ok cb => some cb
  | .error _ => none

/-- How many keys name the client. -/
def keysOf {ν : Type} (client : SocketAddrV4) (table : Table Endpoints ν) : Nat :=
  Table.total table fun key _ => if key.2 = client then 1 else 0

/-- How many connections of the client wait in the queues. -/
def waitingOf (client : SocketAddrV4) (table : Table SocketAddrV4 (PassiveSocket κ ρ)) : Nat :=
  Table.total table fun _ passive => passive.ready.remotes.count client

namespace ServerTables

/-- How many connections with the client a server is opening, has ready or has established. -/
def held (tables : ServerTables κ ρ) (client : SocketAddrV4) : Nat :=
  keysOf client tables.established + keysOf client tables.connecting +
    waitingOf client tables.passive

/-- What has joined the queue of a passive socket. -/
def joined (before : ServerTables κ ρ) (localAddr : SocketAddrV4) (passive : PassiveSocket κ ρ) :
    List (ControlBlock κ ρ) :=
  (passive.ready.ready.drop ((before.passive.lookup localAddr).elim 0 fun passive =>
    passive.ready.ready.length)).filterMap readyConnection

/-- The connections that have joined a queue. -/
def news (before after : ServerTables κ ρ) : List (ControlBlock κ ρ) :=
  after.passive.entries.flatMap fun entry => before.joined entry.1 entry.2

/-- The established connections that are gone. -/
def departed (before after : ServerTables κ ρ) : List (ControlBlock κ ρ) :=
  (before.established.entries.filter fun entry => entry.1 ∉ after.established).map
    fun entry => entry.2.cb

/-- The clients to which an operation gives a new connection: the application connects to
one, or the segment of one completes a handshake. -/
def opened (before after : ServerTables κ ρ) : Operation → List SocketAddrV4
  | .connect _ _ remote => [remote]
  | .segment .. => (before.news after).map ControlBlock.remote
  | _ => []

/-- The connections that a message has brought. -/
def arrived (before after : ServerTables κ ρ) : Operation → List (ControlBlock κ ρ)
  | .message .. => before.news after
  | _ => []

/-- Every connection that has a descriptor is kept under its client. -/
def Described (tables : ServerTables κ ρ) : Prop :=
  ∀ key, key ∈ tables.qds → ∃ connection, tables.established.lookup key = some connection ∧
    connection.cb.remote = key.2

variable {before after : ServerTables κ ρ} {client : SocketAddrV4}

/-! ## What joins and what leaves -/

/-- No queue has become longer. -/
theorem news_nil (shorter : ∀ localAddr passive, after.passive.lookup localAddr = some passive →
    before.joined localAddr passive = []) : before.news after = [] := by
  refine List.flatMap_eq_nil_iff.mpr fun entry member => ?_
  exact shorter entry.1 entry.2 (AList.mem_lookup_iff.mpr member)

/-- A queue that is not longer than before has not been joined. -/
theorem joined_nil {localAddr : SocketAddrV4} {passive passive' : PassiveSocket κ ρ}
    (found : before.passive.lookup localAddr = some passive)
    (shorter : passive'.ready.ready.length ≤ passive.ready.ready.length) :
    before.joined localAddr passive' = [] := by
  rw [joined, found, Option.elim_some, List.drop_eq_nil_of_le shorter]
  rfl

/-- Nothing joins a queue that stays. -/
theorem news_same (same : after.passive = before.passive) : before.news after = [] := by
  refine news_nil fun localAddr passive found => ?_
  rw [same] at found
  exact joined_nil found (Nat.le_refl _)

/-- What joins when one passive socket changes. -/
theorem news_insert {localAddr : SocketAddrV4} {passive : PassiveSocket κ ρ}
    (changed : after.passive = before.passive.insert localAddr passive) :
    before.news after = before.joined localAddr passive := by
  rw [news, changed, AList.entries_insert, List.flatMap_cons]
  have others : ((before.passive.entries.kerase localAddr).flatMap fun entry =>
      before.joined entry.1 entry.2) = [] := by
    refine List.flatMap_eq_nil_iff.mpr fun entry member => ?_
    have still : entry ∈ before.passive.entries := (List.kerase_sublist _ _).subset member
    exact joined_nil (AList.mem_lookup_iff.mpr still) (Nat.le_refl _)
  rw [others, List.append_nil]

/-- One connection joins a queue. -/
theorem joined_pushOk {localAddr : SocketAddrV4} {passive : PassiveSocket κ ρ}
    {passive' : PassiveSocket κ ρ} {cb : ControlBlock κ ρ}
    (found : before.passive.lookup localAddr = some passive)
    (pushed : passive.ready.pushOk cb = .ok passive'.ready) :
    before.joined localAddr passive' = [cb] := by
  unfold ReadySockets.pushOk at pushed
  split at pushed
  · cases pushed
  have longer : passive.ready.ready ++ [.ok cb] = passive'.ready.ready :=
    congrArg ReadySockets.ready (Except.ok.inj pushed)
  rw [joined, found, Option.elim_some, ← longer, List.drop_left]
  rfl

/-- No connection leaves if every established one stays. -/
theorem departed_nil (stay : ∀ key, key ∈ before.established → key ∈ after.established) :
    before.departed after = [] := by
  rw [departed, List.map_eq_nil_iff, List.filter_eq_nil_iff]
  intro entry member
  rw [decide_eq_true_eq, not_not]
  exact stay entry.1 (Table.mem_of_lookup (AList.mem_lookup_iff.mpr member))

/-- The connection that is removed has departed, and no other one. -/
theorem departed_erase {key : Endpoints} {connection : Connection κ ρ}
    (found : before.established.lookup key = some connection)
    (erased : after.established = before.established.erase key) :
    before.departed after = [connection.cb] := by
  rw [departed, erased, Table.filter_erase found]
  rfl

end ServerTables

/-! ## How many there are -/

section Counting

variable {ν : Type} (client : SocketAddrV4) {table : Table Endpoints ν} {key : Endpoints}

/-- A value changes in its place. -/
theorem keysOf_replace {value : ν} (found : table.lookup key = some value) (value' : ν) :
    keysOf client (table.insert key value') = keysOf client table := by
  have weighed := Table.total_insert (fun (key : Endpoints) (_ : ν) =>
    if key.2 = client then 1 else 0) table key value'
  rw [found, Option.elim_some] at weighed
  unfold keysOf
  omega

/-- A new entry counts for its client. -/
theorem keysOf_insert (free : table.lookup key = none) (value : ν) :
    keysOf client (table.insert key value) =
      keysOf client table + if key.2 = client then 1 else 0 := by
  have weighed := Table.total_insert (fun (key : Endpoints) (_ : ν) =>
    if key.2 = client then 1 else 0) table key value
  rw [free, Option.elim_none] at weighed
  unfold keysOf
  omega

/-- An entry counts for its client at most once, whether it is new or not. -/
theorem keysOf_insert_le (value : ν) :
    keysOf client (table.insert key value) ≤
      keysOf client table + if key.2 = client then 1 else 0 := by
  have weighed := Table.total_insert (fun (key : Endpoints) (_ : ν) =>
    if key.2 = client then 1 else 0) table key value
  unfold keysOf
  omega

/-- An entry that is removed does not count any more. -/
theorem keysOf_erase {value : ν} (found : table.lookup key = some value) :
    keysOf client (table.erase key) + (if key.2 = client then 1 else 0) = keysOf client table := by
  have weighed := Table.total_erase (fun (key : Endpoints) (_ : ν) =>
    if key.2 = client then 1 else 0) table key
  rw [found, Option.elim_some] at weighed
  unfold keysOf
  omega

/-- A passive socket changes in its place. -/
theorem waitingOf_replace {passives : Table SocketAddrV4 (PassiveSocket κ ρ)}
    {localAddr : SocketAddrV4} {passive : PassiveSocket κ ρ}
    (found : passives.lookup localAddr = some passive) (passive' : PassiveSocket κ ρ) :
    waitingOf client (passives.insert localAddr passive') + passive.ready.remotes.count client =
      waitingOf client passives + passive'.ready.remotes.count client := by
  have weighed := Table.total_insert (fun _ (passive : PassiveSocket κ ρ) =>
    passive.ready.remotes.count client) passives localAddr passive'
  rw [found, Option.elim_some] at weighed
  exact weighed

/-- A new listening socket holds nobody. -/
theorem waitingOf_listen {passives : Table SocketAddrV4 (PassiveSocket κ ρ)}
    {localAddr : SocketAddrV4} (free : passives.lookup localAddr = none)
    {passive : PassiveSocket κ ρ} (empty : passive.ready = .new) :
    waitingOf client (passives.insert localAddr passive) = waitingOf client passives := by
  have weighed := Table.total_insert (fun _ (passive : PassiveSocket κ ρ) =>
    passive.ready.remotes.count client) passives localAddr passive
  rw [free, Option.elim_none, empty] at weighed
  exact weighed

end Counting

/-- A connection joins the queue behind those that wait. -/
theorem ReadySockets.pushOk_remotes {sockets sockets' : ReadySockets κ ρ} {cb : ControlBlock κ ρ}
    (pushed : sockets.pushOk cb = .ok sockets') :
    sockets'.remotes = sockets.remotes ++ [cb.remote] := by
  unfold pushOk at pushed
  split at pushed
  · cases pushed
  cases pushed
  exact List.filterMap_append

/-- A poll that returns no connection takes none. -/
theorem ReadySockets.remotes_of_poll {sockets sockets' : ReadySockets κ ρ}
    (fewer : sockets.ready = sockets'.ready ∨ ∃ fail, sockets.ready = .error fail :: sockets'.ready) :
    sockets'.remotes = sockets.remotes ∧ sockets'.ready.length ≤ sockets.ready.length := by
  unfold remotes
  obtain ready | ⟨fail, ready⟩ := fewer
  · rw [ready]
    exact ⟨rfl, Nat.le_refl _⟩
  · rw [ready]
    exact ⟨rfl, Nat.le_succ _⟩

namespace ServerTables

variable {before after : ServerTables κ ρ} {client : SocketAddrV4}

/-- One connection joins a queue and is counted there. -/
theorem held_pushOk {localAddr : SocketAddrV4} {passive passive' : PassiveSocket κ ρ}
    {cb : ControlBlock κ ρ} (found : before.passive.lookup localAddr = some passive)
    (pushed : passive.ready.pushOk cb = .ok passive'.ready) :
    ({ before with passive := before.passive.insert localAddr passive' } :
      ServerTables κ ρ).held client = before.held client + [cb.remote].count client := by
  have weighed := waitingOf_replace client found passive'
  rw [ReadySockets.pushOk_remotes pushed, List.count_append] at weighed
  unfold held
  dsimp only
  omega

/-- A passive socket changes, but not who waits there. -/
theorem held_replace {localAddr : SocketAddrV4} {passive passive' : PassiveSocket κ ρ}
    (found : before.passive.lookup localAddr = some passive)
    (same : passive'.ready.remotes = passive.ready.remotes) :
    ({ before with passive := before.passive.insert localAddr passive' } :
      ServerTables κ ρ).held client = before.held client := by
  have weighed := waitingOf_replace client found passive'
  rw [same] at weighed
  unfold held
  dsimp only
  omega

variable [CongestionControl κ] [RtoCalculator ρ] {profile : Profile}

omit [CongestionControl κ] [RtoCalculator ρ] in
/-- A connection leaves, and nothing takes its place. -/
theorem held_exports {qd : QDesc} (described : before.Described)
    (exports : Exports profile qd before after) :
    after.held client + ((before.departed after).map ControlBlock.remote).count client =
      before.held client := by
  obtain ⟨localAddr, remote, connection, state, tcpmig, -, known, found, -, -, rfl⟩ := exports
  obtain ⟨connection', found', named⟩ := described _ (AList.lookup_isSome.mp known)
  cases found.symm.trans found'
  have erased := keysOf_erase client found
  rw [departed_erase found rfl, List.map_singleton, named]
  unfold held
  dsimp only
  rw [List.count_singleton]
  simp only [beq_iff_eq] at *
  omega

/-- A connection leaves a queue and is established. -/
theorem held_accepts {env : Env} {newQd : QDesc} {localAddr : SocketAddrV4}
    {taken : ControlBlock κ ρ} (accepts : Accepts profile env newQd localAddr taken before after) :
    after.held client = before.held client := by
  obtain ⟨passive, ready, cb, found, front, -, -, -, free, rfl⟩ := accepts
  have established := keysOf_insert client free
    (⟨{ cb with statsEnabled := true }, .top⟩ : Connection κ ρ)
  have waiting := waitingOf_replace client found { passive with
    ready := { passive.ready with
      ready, endpoints := passive.ready.endpoints.erase taken.remote } }
  have remotes : passive.ready.remotes.count client =
      ({ passive.ready with ready } : ReadySockets κ ρ).remotes.count client +
        if taken.remote = client then 1 else 0 := by
    unfold ReadySockets.remotes
    rw [front]
    simp only [List.filterMap_cons, ReadySockets.client, List.count_cons, beq_iff_eq]
  unfold held
  dsimp only at *
  unfold ReadySockets.remotes at *
  dsimp only at *
  omega

omit [CongestionControl κ] [RtoCalculator ρ] in
/-- A migration that is started leaves the connection in its place. -/
theorem initiates_keeps (client : SocketAddrV4) {conn : Endpoints} {qd : QDesc}
    (initiates : Initiates profile conn qd before after) :
    before.departed after = [] ∧ after.held client = before.held client ∧
      after.passive = before.passive := by
  obtain ⟨connection, tcpmig, found, -, rfl⟩ := initiates
  refine ⟨departed_nil fun key member => AList.mem_insert _ |>.mpr (.inr member), ?_, rfl⟩
  unfold held
  dsimp only
  rw [keysOf_replace client found]

/-- A state that is imported is one more connection, if someone listens. -/
theorem imports_keeps (client : SocketAddrV4) {state : TcpState} (imports : Imports state before after) :
    before.departed after = [] ∧
      after.held client = before.held client + ((before.news after).map ControlBlock.remote).count client ∧
      (before.news after = [] ∨ before.news after = [.fromState before.importer state.cb]) := by
  obtain ⟨-, rfl⟩ | ⟨passive, ready, found, pushed, rfl⟩ := imports
  · rw [news_same rfl]
    exact ⟨departed_nil fun _ => id, rfl, .inl rfl⟩
  · have pushed' : passive.ready.pushOk (.fromState before.importer state.cb) =
        .ok ({ passive with ready } : PassiveSocket κ ρ).ready := pushed
    rw [news_insert rfl, joined_pushOk found pushed', held_pushOk found pushed']
    exact ⟨departed_nil fun _ => id, rfl, .inr rfl⟩

/-- Connections are neither lost nor made, except as `opened`, `arrived` and `departed` say. -/
theorem conserves {operation : Operation} (described : before.Described)
    (effect : Effect profile before operation after) :
    after.held client + ((before.departed after).map ControlBlock.remote).count client ≤
      before.held client + (before.opened after operation).count client +
        ((before.arrived after operation).map ControlBlock.remote).count client := by
  have keeps (stay : before.departed after = []) (fewer : after.held client ≤ before.held client) :
      after.held client + ((before.departed after).map ControlBlock.remote).count client ≤
        before.held client + (before.opened after operation).count client +
          ((before.arrived after operation).map ControlBlock.remote).count client := by
    rw [stay]
    exact Nat.le_trans fewer (Nat.le_trans (Nat.le_add_right _ _) (Nat.le_add_right _ _))
  cases effect with
  | idle | opens | binds | setsPort | drops | dangles | buffers | registers =>
    exact keeps (departed_nil fun _ => id) (Nat.le_refl _)
  | listens bound free empty at_ =>
    refine keeps (departed_nil fun _ => id) (Nat.le_of_eq ?_)
    unfold held
    dsimp only
    rw [waitingOf_listen client free empty]
  | @connects digest qd bound localAddr remote socket inactive =>
    have stay : before.departed { before with
        sockets := before.sockets.insert qd (.connecting localAddr remote)
        connecting := before.connecting.insert (localAddr, remote) socket } = [] :=
      departed_nil fun _ => id
    have more : keysOf client (before.connecting.insert (localAddr, remote) socket) ≤ _ :=
      keysOf_insert_le client socket
    rw [stay]
    unfold held
    dsimp only [opened] at more ⊢
    rw [List.count_singleton]
    simp only [beq_iff_eq, List.map_nil, List.count_nil]
    omega
  | awaits fewer =>
    refine keeps (departed_nil fun _ => id) ?_
    have most := Table.total_le_of_keys (fun key : Endpoints => if key.2 = client then 1 else 0) fewer
    unfold held keysOf
    dsimp only at most ⊢
    omega
  | @connected qd waker localAddr remote socket cb awaited found result free =>
    refine keeps (departed_nil fun key member => AList.mem_insert _ |>.mpr (.inr member)) ?_
    have established := keysOf_insert client free (⟨cb, .top⟩ : Connection κ ρ)
    have connecting := keysOf_erase client found
    unfold held
    dsimp only at *
    omega
  | closes established found closed =>
    refine keeps (departed_nil fun key member => AList.mem_insert _ |>.mpr (.inr member)) ?_
    unfold held
    dsimp only
    rw [keysOf_replace client found]
  | moves found stepped =>
    refine keeps (departed_nil fun key member => AList.mem_insert _ |>.mpr (.inr member)) ?_
    unfold held
    dsimp only
    rw [keysOf_replace client found]
  | polls found same fewer =>
    refine keeps (departed_nil fun _ => id) ?_
    exact Nat.le_of_eq (held_replace found (ReadySockets.remotes_of_poll fewer).1)
  | accepts listening accepted =>
    refine keeps (departed_nil ?_) (Nat.le_of_eq (held_accepts accepted))
    obtain ⟨passive, ready, cb, -, -, -, -, -, -, rfl⟩ := accepted
    exact fun key member => AList.mem_insert _ |>.mpr (.inr member)
  | shakes found ready at_ =>
    refine keeps (departed_nil fun _ => id) ?_
    exact Nat.le_of_eq (held_replace found (by rw [ready]))
  | @completes env digest ipHdr tcpHdr data passive passive' inflight cb found unclaimed unrecorded
      completed pushed at_ =>
    have stay : before.departed { before with
        passive := before.passive.insert ⟨ipHdr.destAddr, tcpHdr.dstPort⟩ passive' } = [] :=
      departed_nil fun _ => id
    rw [stay, held_pushOk found pushed, opened, news_insert rfl, joined_pushOk found pushed]
    exact Nat.le_add_right _ _
  | @migrates ipHdr buf tcpmig status after received acts =>
    cases acts with
    | failed | settled | completed | sentReject | heartbeat =>
      exact keeps (departed_nil fun _ => id) (Nat.le_refl _)
    | rejected found =>
      refine keeps (departed_nil fun key member => AList.mem_insert _ |>.mpr (.inr member)) ?_
      unfold held
      dsimp only
      rw [keysOf_replace client found]
    | returned known initiates =>
      obtain ⟨stay, same, -⟩ := initiates_keeps client initiates
      exact keeps stay (Nat.le_of_eq same)
    | acked exports =>
      have described' : ({ before with tcpmig } : ServerTables κ ρ).Described := described
      have leaves : after.held client + ((({ before with tcpmig } : ServerTables κ ρ).departed
          after).map ControlBlock.remote).count client = before.held client :=
        held_exports described' exports
      exact Nat.le_trans (Nat.le_of_eq leaves)
        (Nat.le_trans (Nat.le_add_right _ _) (Nat.le_add_right _ _))
    | received imports =>
      obtain ⟨stay, more, -⟩ := imports_keeps client imports
      have stay' : before.departed after = [] := stay
      rw [stay', more]
      exact Nat.le_refl _
  | initiatesByAddr known initiates =>
    obtain ⟨stay, same, -⟩ := initiates_keeps client initiates
    exact keeps stay (Nat.le_of_eq same)
  | initiatesByQd established initiates =>
    obtain ⟨stay, same, -⟩ := initiates_keeps client initiates
    exact keeps stay (Nat.le_of_eq same)
  | exports exported =>
    rw [held_exports described exported]
    exact Nat.le_trans (Nat.le_add_right _ _) (Nat.le_add_right _ _)

omit [CongestionControl κ] [RtoCalculator ρ] in
/-- A connection changes in its place, or one that has no descriptor is added. -/
theorem Described.insert {key : Endpoints} {connection : Connection κ ρ}
    (described : before.Described)
    (named : key ∈ before.qds → connection.cb.remote = key.2) :
    ({ before with established := before.established.insert key connection } :
      ServerTables κ ρ).Described := by
  intro other known
  dsimp only
  rw [Table.lookup_insert_eq]
  split
  · rename_i same
    subst same
    exact ⟨connection, rfl, named known⟩
  · exact described other known

omit [CongestionControl κ] [RtoCalculator ρ] in
/-- A connection changes, but not whose it is. -/
theorem Described.replace {key : Endpoints} {connection connection' : Connection κ ρ}
    (described : before.Described) (found : before.established.lookup key = some connection)
    (same : connection'.cb.endpoints = connection.cb.endpoints) :
    ({ before with established := before.established.insert key connection' } :
      ServerTables κ ρ).Described := by
  refine described.insert fun known => ?_
  obtain ⟨connection, found', named⟩ := described key known
  cases found.symm.trans found'
  exact (congrArg Prod.snd same).trans named

omit [CongestionControl κ] [RtoCalculator ρ] in
/-- A migration that begins is filed under the addresses of its connection. -/
theorem Described.initiates {conn : Endpoints} {qd : QDesc} (described : before.Described)
    (initiates : Initiates profile conn qd before after) : after.Described := by
  obtain ⟨connection, tcpmig, found, -, rfl⟩ := initiates
  have same : connection.cb.disableStats.endpoints = connection.cb.endpoints := rfl
  exact described.replace found same

omit [CongestionControl κ] [RtoCalculator ρ] in
/-- A connection that leaves takes its migration along. -/
theorem Described.exports {qd : QDesc} (described : before.Described)
    (exports : Exports profile qd before after) : after.Described := by
  obtain ⟨localAddr, remote, connection, state, tcpmig, -, -, -, -, -, rfl⟩ := exports
  intro key known
  obtain ⟨different, known⟩ := AList.mem_erase.mp known
  dsimp only
  rw [Table.lookup_erase_eq, if_neg different]
  exact described key known

/-- What is received before an accept does not change whose the connection is. -/
theorem receiveAll_endpoints {env : Env} {packets : List (TcpHeader × Buffer)}
    {cb cb' : ControlBlock κ ρ} (received : Inner.receiveAll profile env packets cb = .ok cb') :
    cb'.endpoints = cb.endpoints := by
  induction packets generalizing cb with
  | nil =>
    cases received
    rfl
  | cons packet packets inductionHypothesis =>
    obtain ⟨middle, receives, received⟩ := bind_ok.mp received
    exact (inductionHypothesis received).trans
      ((cb.receive_confines profile env packet.1 packet.2).returns middle receives)

/-- Descriptions stay true. -/
theorem Described.step {operation : Operation} (described : before.Described)
    (effect : Effect profile before operation after) : after.Described := by
  cases effect with
  | idle | opens | binds | setsPort | listens | connects | awaits | drops | dangles | polls | buffers
  | shakes | completes | registers => exact described
  | @connected qd waker localAddr remote socket cb awaited found result free =>
    have apart : (localAddr, remote) ∉ before.qds := by
      intro known
      obtain ⟨connection, found', -⟩ := described _ known
      cases free.symm.trans found'
    have added : ({ before with
        established := before.established.insert (localAddr, remote) ⟨cb, .top⟩ } :
          ServerTables κ ρ).Described :=
      described.insert fun known => absurd known apart
    exact added
  | @closes env qd localAddr remote connection cb established found closed =>
    have same := (connection.cb.close_rests profile env).returns cb closed
    have replaced : ({ before with
        established := before.established.insert (localAddr, remote) { connection with cb } } :
          ServerTables κ ρ).Described :=
      described.replace found (congrArg Prod.fst same)
    exact replaced
  | moves found stepped =>
    exact described.replace found ((Connection.step_confines profile _ _).returns _ stepped)
  | accepts listening accepted =>
    obtain ⟨passive, ready, cb, -, -, received, -, -, -, rfl⟩ := accepted
    intro key known
    have same := receiveAll_endpoints received
    obtain rfl | known := AList.mem_insert _ |>.mp known
    · exact ⟨_, AList.lookup_insert _, congrArg Prod.snd same⟩
    · obtain ⟨connection, found, named⟩ := described key known
      dsimp only
      rw [Table.lookup_insert_eq]
      split
      · rename_i same'
        subst same'
        exact ⟨_, rfl, congrArg Prod.snd same⟩
      · exact ⟨connection, found, named⟩
  | @migrates ipHdr buf tcpmig status after received acts =>
    have described' : ({ before with tcpmig } : ServerTables κ ρ).Described := described
    cases acts with
    | failed | settled | completed | sentReject | heartbeat => exact described
    | rejected found => exact described'.replace found rfl
    | returned known initiates => exact described'.initiates initiates
    | acked exports => exact described'.exports exports
    | received imports =>
      obtain ⟨-, rfl⟩ | ⟨passive, ready, -, -, rfl⟩ := imports
      · exact described
      · exact described
  | initiatesByAddr known initiates => exact described.initiates initiates
  | initiatesByQd established initiates => exact described.initiates initiates
  | exports exports => exact described.exports exports

end ServerTables

end Capybara
