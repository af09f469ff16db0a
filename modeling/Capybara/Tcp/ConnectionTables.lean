import Capybara.Tcp.Effects
import Capybara.Tcp.Established.Confinement

/-!
# Sockets, descriptors and connections

A socket that is established should lead to a connection, and the connection back to
the socket. Accepting and migrating keep both directions. Two operations do not: a
connection that was opened actively is never entered in `qds`, and closing removes a
socket but neither its entry in `qds` nor its connection.

Without these two the tables agree after every operation, and as long as no state
arrives for a connection that is already here and no migration is started for one
that is not, none of the panics that would notice a disagreement is reached.
-/

namespace Capybara

open Tables

variable {κ ρ : Type}

/-! ## Connections that wait to be accepted -/

namespace ReadySockets

/-- The client of an entry of the queue, unless it is an error. -/
def client : Except Fail (ControlBlock κ ρ) → Option SocketAddrV4
  | .ok cb => some cb.remote
  | .error _ => none

/-- The clients of the connections that wait. -/
def remotes (sockets : ReadySockets κ ρ) : List SocketAddrV4 := sockets.ready.filterMap client

/-- The registered endpoints are those of the waiting connections, each once. -/
structure Registered (sockets : ReadySockets κ ρ) : Prop where
  same : sockets.endpoints.Perm sockets.remotes
  once : sockets.remotes.Nodup

/-- An empty queue has no endpoint registered and no connection waiting. -/
theorem Registered.new : (ReadySockets.new : ReadySockets κ ρ).Registered :=
  ⟨.nil, .nil⟩

/-- A connection joins the queue only if its client has none there. -/
theorem Registered.pushOk {sockets sockets' : ReadySockets κ ρ} {cb : ControlBlock κ ρ}
    (registered : sockets.Registered) (pushed : sockets.pushOk cb = .ok sockets') :
    sockets'.Registered ∧ sockets'.remotes = sockets.remotes ++ [cb.remote] := by
  unfold ReadySockets.pushOk at pushed
  split at pushed
  · cases pushed
  rename_i fresh
  cases pushed
  have behind : (sockets.ready ++ [Except.ok cb]).filterMap client =
      sockets.remotes ++ [cb.remote] := by
    rw [List.filterMap_append]
    rfl
  refine ⟨⟨?_, ?_⟩, behind⟩
  · unfold remotes
    rw [behind]
    exact (registered.same.cons _).trans (List.perm_append_singleton _ _).symm
  · unfold remotes
    rw [behind]
    refine List.nodup_append.mpr ⟨registered.once, List.nodup_singleton _, ?_⟩
    intro remote member other same
    rw [List.mem_singleton] at same
    rintro rfl
    exact fresh (same ▸ registered.same.mem_iff.mpr member)

/-- The front leaves the queue. -/
theorem Registered.pop {sockets : ReadySockets κ ρ} {cb : ControlBlock κ ρ}
    {ready : List (Except Fail (ControlBlock κ ρ))} (registered : sockets.Registered)
    (queue : sockets.ready = .ok cb :: ready) :
    ({ sockets with ready, endpoints := sockets.endpoints.erase cb.remote } :
      ReadySockets κ ρ).Registered ∧
    sockets.remotes = cb.remote :: ({ sockets with ready } : ReadySockets κ ρ).remotes := by
  have front : sockets.remotes = cb.remote :: ({ sockets with ready } : ReadySockets κ ρ).remotes := by
    unfold remotes
    rw [queue]
    rfl
  have once := registered.once
  rw [front] at once
  refine ⟨⟨?_, once.of_cons⟩, front⟩
  have erased := registered.same.erase cb.remote
  rw [front, List.erase_cons_head] at erased
  exact erased

/-- A poll that returns no connection changes none. -/
theorem Registered.of_poll {sockets sockets' : ReadySockets κ ρ} (registered : sockets.Registered)
    (same : sockets'.endpoints = sockets.endpoints)
    (fewer : sockets.ready = sockets'.ready ∨ ∃ fail, sockets.ready = .error fail :: sockets'.ready) :
    sockets'.Registered ∧ sockets'.remotes = sockets.remotes := by
  have remotes : sockets'.remotes = sockets.remotes := by
    obtain ready | ⟨fail, ready⟩ := fewer
    · unfold ReadySockets.remotes
      rw [ready]
    · unfold ReadySockets.remotes
      rw [ready]
      rfl
  refine ⟨⟨?_, ?_⟩, remotes⟩
  · rw [same, remotes]
    exact registered.same
  · rw [remotes]
    exact registered.once

end ReadySockets

/-- A handshake leads to a connection with the client that began it. -/
theorem PassiveSocket.opened_remote [CongestionControl κ] [RtoCalculator ρ]
    {passive : PassiveSocket κ ρ} {remote : SocketAddrV4} {inflight : InflightAccept}
    {cb : ControlBlock κ ρ} (opened : passive.opened remote inflight = .ok cb) :
    cb.localAddr = passive.localAddr ∧ cb.remote = remote := by
  obtain ⟨senderWindowSize, -, opened⟩ := bind_ok.mp opened
  obtain ⟨receiverWindowSize, -, opened⟩ := bind_ok.mp opened
  cases opened
  exact ⟨rfl, rfl⟩

/-! ## The invariant -/

namespace ServerTables

/-- Every established socket has its connection and is known by its descriptor, and
every descriptor in `qds` is that of an established socket. -/
structure Agree (tables : ServerTables κ ρ) : Prop where
  established : ∀ qd localAddr remote,
    tables.sockets.lookup qd = some (.established localAddr remote) →
      (localAddr, remote) ∈ tables.established ∧ tables.qds.lookup (localAddr, remote) = some qd
  known : ∀ localAddr remote qd, tables.qds.lookup (localAddr, remote) = some qd →
    tables.sockets.lookup qd = some (.established localAddr remote)

/-- What else accepting and migrating rely on. -/
structure Consistent (tables : ServerTables κ ρ) : Prop extends Agree tables where
  listening : ∀ qd localAddr, tables.sockets.lookup qd = some (.listening localAddr) →
    localAddr ∈ tables.passive
  described : ∀ key, key ∈ tables.established → key ∈ tables.qds
  queued : ∀ localAddr passive, tables.passive.lookup localAddr = some passive →
    passive.ready.Registered ∧
      ∀ remote ∈ passive.ready.remotes, (localAddr, remote) ∉ tables.established

/-- The operations that leave no table behind: no active opening completes and no
established socket is closed; a state is imported only for a connection that is not
here, and a migration is started by address only for one that is. -/
def Regular (profile : Profile) (tables : ServerTables κ ρ) : Operation → Prop
  | .connectFinished qd _ => ∀ localAddr remote socket,
      tables.sockets.lookup qd = some (.connecting localAddr remote) →
      tables.connecting.lookup (localAddr, remote) = some socket → ∀ cb, socket.result ≠ some (.ok cb)
  | .close _ qd => ∀ localAddr remote,
      tables.sockets.lookup qd ≠ some (.established localAddr remote)
  | .migrateByAddr conn => conn ∈ tables.established
  | .message ipHdr buf => ∀ tcpmig status,
      tables.tcpmig.receive profile ipHdr buf = .ok (tcpmig, .ok status) →
        match status with
        | .stateReceived state => (state.cb.localAddr, state.cb.remote) ∉ tables.established
        | .returnedBySwitch localAddr remote => (localAddr, remote) ∈ tables.established
        | _ => True
  | _ => True

variable {before after : ServerTables κ ρ}

/-- Changes that leave the established sockets and the connections in place. -/
theorem Consistent.of_same (consistent : before.Consistent)
    (established : ∀ qd localAddr remote,
      after.sockets.lookup qd = some (.established localAddr remote) ↔
        before.sockets.lookup qd = some (.established localAddr remote))
    (listening : ∀ qd localAddr, after.sockets.lookup qd = some (.listening localAddr) →
      localAddr ∈ after.passive)
    (qds : after.qds = before.qds) (connections : ∀ key, key ∈ after.established ↔ key ∈ before.established)
    (queued : ∀ localAddr passive, after.passive.lookup localAddr = some passive →
      passive.ready.Registered ∧
        ∀ remote ∈ passive.ready.remotes, (localAddr, remote) ∉ before.established) :
    after.Consistent := by
  constructor
  · constructor
    · intro qd localAddr remote found
      rw [connections, qds]
      exact consistent.established qd localAddr remote ((established _ _ _).mp found)
    · intro localAddr remote qd found
      rw [qds] at found
      exact (established _ _ _).mpr (consistent.known localAddr remote qd found)
  · exact listening
  · intro key member
    rw [qds]
    exact consistent.described key ((connections key).mp member)
  · intro localAddr passive found
    obtain ⟨registered, apart⟩ := queued localAddr passive found
    refine ⟨registered, fun remote waits member => apart remote waits ?_⟩
    exact (connections _).mp member

/-- A socket without a connection changes into another one, or disappears. -/
theorem Consistent.of_sockets {sockets : Table QDesc Socket} (consistent : before.Consistent)
    (established : ∀ qd localAddr remote,
      sockets.lookup qd = some (.established localAddr remote) ↔
        before.sockets.lookup qd = some (.established localAddr remote))
    (listening : ∀ qd localAddr, sockets.lookup qd = some (.listening localAddr) →
      before.sockets.lookup qd = some (.listening localAddr))
    (connecting : Table Endpoints (ActiveOpenSocket κ ρ)) (tcpmig : TcpMigPeer) :
    ({ before with sockets, connecting, tcpmig } : ServerTables κ ρ).Consistent :=
  consistent.of_same established
    (fun qd localAddr found => consistent.listening qd localAddr (listening qd localAddr found)) rfl
    (fun _ => Iff.rfl) consistent.queued

/-- A connection changes in its place. -/
theorem Consistent.of_connection {key : Endpoints} {connection : Connection κ ρ}
    (consistent : before.Consistent) (held : before.established.lookup key = some connection)
    (connection' : Connection κ ρ) (tcpmig : TcpMigPeer) :
    ({ before with established := before.established.insert key connection', tcpmig } :
      ServerTables κ ρ).Consistent :=
  consistent.of_same (fun _ _ _ => Iff.rfl) consistent.listening rfl
    (Table.mem_insert_iff_of_lookup held connection') consistent.queued

/-- A passive socket changes, and the connections that wait there have no other place. -/
theorem Consistent.of_passive {localAddr : SocketAddrV4} {passive : PassiveSocket κ ρ}
    (consistent : before.Consistent) (registered : passive.ready.Registered)
    (apart : ∀ remote ∈ passive.ready.remotes, (localAddr, remote) ∉ before.established) :
    ({ before with passive := before.passive.insert localAddr passive } :
      ServerTables κ ρ).Consistent := by
  refine consistent.of_same (fun _ _ _ => Iff.rfl) ?_ rfl (fun _ => Iff.rfl) ?_
  · intro qd other found
    exact AList.mem_insert _ |>.mpr (.inr (consistent.listening qd other found))
  · intro other found lookup
    rw [Table.lookup_insert_eq] at lookup
    split at lookup
    · rename_i same
      cases lookup
      subst same
      exact ⟨registered, apart⟩
    · exact consistent.queued other found lookup

/-- A new connection joins the queue of a passive socket. -/
theorem Consistent.of_push {localAddr : SocketAddrV4} {passive passive' : PassiveSocket κ ρ}
    {cb : ControlBlock κ ρ} (consistent : before.Consistent)
    (found : before.passive.lookup localAddr = some passive)
    (pushed : passive.ready.pushOk cb = .ok passive'.ready)
    (fresh : (localAddr, cb.remote) ∉ before.established) :
    ({ before with passive := before.passive.insert localAddr passive' } :
      ServerTables κ ρ).Consistent := by
  obtain ⟨registered, apart⟩ := consistent.queued localAddr passive found
  obtain ⟨registered', remotes⟩ := registered.pushOk pushed
  refine consistent.of_passive registered' fun remote waits => ?_
  rw [remotes, List.mem_append, List.mem_singleton] at waits
  obtain waits | rfl := waits
  · exact apart remote waits
  · exact fresh

/-- Other tables do not matter. -/
theorem Consistent.of_tcpmig (consistent : before.Consistent) (tcpmig : TcpMigPeer) :
    ({ before with tcpmig } : ServerTables κ ρ).Consistent :=
  consistent.of_sockets (fun _ _ _ => Iff.rfl) (fun _ _ => id) _ _

variable [CongestionControl κ] [RtoCalculator ρ]

/-- A connection moves from the queue to the established ones, with its socket. -/
theorem Consistent.of_accepts {profile : Profile} {env : Env} {newQd : QDesc}
    {localAddr : SocketAddrV4} {taken : ControlBlock κ ρ} (consistent : before.Consistent)
    (accepts : Accepts profile env newQd localAddr taken before after) : after.Consistent := by
  obtain ⟨passive, ready, cb, found, queue, -, free, unknown, absent, rfl⟩ := accepts
  obtain ⟨registered, apart⟩ := consistent.queued localAddr passive found
  obtain ⟨registered', remotes⟩ := registered.pop queue
  have once := registered.once
  rw [remotes, List.nodup_cons] at once
  constructor
  · constructor
    · intro qd l r lookup
      dsimp only at lookup ⊢
      rw [Table.lookup_insert_eq] at lookup
      rw [AList.mem_insert, Table.lookup_insert_eq]
      split at lookup
      · rename_i same
        cases lookup
        subst same
        exact ⟨.inl rfl, if_pos rfl⟩
      · obtain ⟨member, known⟩ := consistent.established qd l r lookup
        refine ⟨.inr member, ?_⟩
        rw [if_neg]
        · exact known
        · intro same
          rw [same] at known
          cases unknown.symm.trans known
    · intro l r qd known
      dsimp only at known ⊢
      rw [Table.lookup_insert_eq] at known ⊢
      split at known
      · rename_i same
        cases known
        cases same
        exact if_pos rfl
      · have socket := consistent.known l r qd known
        rw [if_neg]
        · exact socket
        · rintro rfl
          exact free l r socket
  · intro qd other lookup
    dsimp only at lookup ⊢
    rw [Table.lookup_insert_eq] at lookup
    split at lookup
    · cases lookup
    · exact AList.mem_insert _ |>.mpr (.inr (consistent.listening qd other lookup))
  · intro key member
    rw [AList.mem_insert] at member ⊢
    exact member.imp id (consistent.described key)
  · intro other passive' lookup
    dsimp only at lookup ⊢
    rw [Table.lookup_insert_eq] at lookup
    split at lookup
    · rename_i same
      cases lookup
      subst same
      refine ⟨registered', fun remote waits member => ?_⟩
      obtain same | member := AList.mem_insert _ |>.mp member
      · cases same
        exact once.1 waits
      · exact apart remote (by rw [remotes]; exact List.mem_cons_of_mem _ waits) member
    · rename_i different
      obtain ⟨others, clear⟩ := consistent.queued other passive' lookup
      refine ⟨others, fun remote waits member => ?_⟩
      obtain same | member := AList.mem_insert _ |>.mp member
      · cases same
        exact different rfl
      · exact clear remote waits member

omit [CongestionControl κ] [RtoCalculator ρ] in
/-- A connection leaves with its descriptor. -/
theorem Consistent.of_exports {profile : Profile} {qd : QDesc} (consistent : before.Consistent)
    (exports : Exports profile qd before after) : after.Consistent := by
  obtain ⟨localAddr, remote, connection, state, tcpmig, established, -, held, -, -, rfl⟩ := exports
  obtain ⟨-, known⟩ := consistent.established qd localAddr remote established
  constructor
  · constructor
    · intro other l r lookup
      dsimp only at lookup ⊢
      rw [Table.lookup_insert_eq] at lookup
      split at lookup
      · cases lookup
      rename_i different
      obtain ⟨member, described⟩ := consistent.established other l r lookup
      have apart : (l, r) ≠ (localAddr, remote) := by
        intro same
        rw [same] at described
        exact different (Option.some.inj (described.symm.trans known))
      refine ⟨AList.mem_erase.mpr ⟨apart, member⟩, ?_⟩
      rw [Table.lookup_erase_eq, if_neg apart]
      exact described
    · intro l r other described
      dsimp only at described ⊢
      rw [Table.lookup_erase_eq] at described
      split at described
      · cases described
      rename_i apart
      have socket := consistent.known l r other described
      rw [Table.lookup_insert_eq, if_neg]
      · exact socket
      · rintro rfl
        cases established.symm.trans socket
        exact apart rfl
  · intro other l lookup
    dsimp only at lookup ⊢
    rw [Table.lookup_insert_eq] at lookup
    split at lookup
    · cases lookup
    · exact consistent.listening other l lookup
  · intro key member
    obtain ⟨apart, member⟩ := AList.mem_erase.mp member
    exact AList.mem_erase.mpr ⟨apart, consistent.described key member⟩
  · intro l passive lookup
    obtain ⟨registered, apart⟩ := consistent.queued l passive lookup
    refine ⟨registered, fun other waits member => apart other waits ?_⟩
    exact (AList.mem_erase.mp member).2

omit [CongestionControl κ] [RtoCalculator ρ] in
/-- A descriptor without a connection gets another socket, which has none either. -/
theorem Consistent.of_insert {qd : QDesc} {socket : Socket} (consistent : before.Consistent)
    (apart : ∀ l r, before.sockets.lookup qd ≠ some (.established l r))
    (unconnected : ∀ l r, socket ≠ .established l r) (deaf : ∀ l, socket ≠ .listening l)
    (connecting : Table Endpoints (ActiveOpenSocket κ ρ)) (tcpmig : TcpMigPeer) :
    ({ before with sockets := before.sockets.insert qd socket, connecting, tcpmig } :
      ServerTables κ ρ).Consistent := by
  refine consistent.of_sockets ?_ ?_ connecting tcpmig
  · intro other l r
    exact Table.lookup_insert_iff (apart l r) (unconnected l r) other
  · intro other l found
    rw [Table.lookup_insert_eq] at found
    split at found
    · exact absurd (Option.some.inj found) (deaf l)
    · exact found

omit [CongestionControl κ] [RtoCalculator ρ] in
/-- A socket without a connection is removed. -/
theorem Consistent.of_erase {qd : QDesc} (consistent : before.Consistent)
    (apart : ∀ l r, before.sockets.lookup qd ≠ some (.established l r)) :
    ({ before with sockets := before.sockets.erase qd } : ServerTables κ ρ).Consistent := by
  refine consistent.of_sockets ?_ ?_ before.connecting before.tcpmig
  · intro other l r
    exact Table.lookup_erase_iff (apart l r) other
  · intro other l found
    rw [Table.lookup_erase_eq] at found
    split at found
    · cases found
    · exact found

omit [CongestionControl κ] [RtoCalculator ρ] in
/-- A bound socket begins to listen, with an empty queue. -/
theorem Consistent.of_listens {qd : QDesc} {localAddr : SocketAddrV4} {passive : PassiveSocket κ ρ}
    (consistent : before.Consistent)
    (bound : before.sockets.lookup qd = some (.inactive (some localAddr)))
    (empty : passive.ready = .new) :
    ({ before with
      sockets := before.sockets.insert qd (.listening localAddr)
      passive := before.passive.insert localAddr passive } : ServerTables κ ρ).Consistent := by
  refine consistent.of_same ?_ ?_ rfl (fun _ => Iff.rfl) ?_
  · intro other l r
    refine Table.lookup_insert_iff ?_ ?_ other
    · rw [bound]
      simp
    · simp
  · intro other l found
    dsimp only at found ⊢
    rw [Table.lookup_insert_eq] at found
    rw [AList.mem_insert]
    split at found
    · cases found
      exact .inl rfl
    · exact .inr (consistent.listening other l found)
  · intro other passive' found
    dsimp only at found
    rw [Table.lookup_insert_eq] at found
    split at found
    · cases found
      rw [empty]
      refine ⟨.new, ?_⟩
      intro remote waits
      cases waits
    · exact consistent.queued other passive' found

omit [CongestionControl κ] [RtoCalculator ρ] in
/-- A migration that is started changes the connection in its place. -/
theorem Consistent.of_initiates {profile : Profile} {conn : Endpoints} {qd : QDesc}
    (consistent : before.Consistent) (initiates : Initiates profile conn qd before after) :
    after.Consistent := by
  obtain ⟨connection, tcpmig, held, -, rfl⟩ := initiates
  exact consistent.of_connection held _ tcpmig

/-- A message that brings no second state for a connection keeps the tables consistent. -/
theorem Consistent.of_acts {profile : Profile} {status : Except Fail TcpmigReceiveStatus}
    (consistent : before.Consistent) (acts : Acts profile before status after)
    (fresh : ∀ state, status = .ok (.stateReceived state) →
      (state.cb.localAddr, state.cb.remote) ∉ before.established) : after.Consistent := by
  cases acts with
  | failed | settled | completed | sentReject | heartbeat => exact consistent
  | rejected held => exact consistent.of_connection held _ before.tcpmig
  | returned _ initiates => exact consistent.of_initiates initiates
  | acked exports => exact consistent.of_exports exports
  | received imports =>
    obtain ⟨-, rfl⟩ | ⟨passive, ready, found, pushed, rfl⟩ := imports
    · exact consistent
    · exact consistent.of_push found pushed (fresh _ rfl)

/-- Regular operations keep the tables consistent. -/
theorem Consistent.of_effect {profile : Profile} {operation : Operation}
    (consistent : before.Consistent) (regular : Regular profile before operation)
    (effect : Effect profile before operation after) : after.Consistent := by
  cases effect with
  | idle => exact consistent
  | opens free =>
    refine consistent.of_insert ?_ (by simp) (by simp) before.connecting before.tcpmig
    simp [free]
  | binds port open_ =>
    refine consistent.of_insert ?_ (by simp) (by simp) before.connecting _
    simp [open_]
  | setsPort port => exact consistent.of_tcpmig _
  | listens bound free empty => exact consistent.of_listens bound empty
  | connects inactive =>
    refine consistent.of_insert ?_ (by simp) (by simp) _ before.tcpmig
    simp [inactive]
  | awaits => exact consistent.of_sockets (fun _ _ _ => Iff.rfl) (fun _ _ => id) _ before.tcpmig
  | connected awaited found result => exact absurd result (regular _ _ _ awaited found _)
  | drops apart => exact consistent.of_erase apart
  | dangles established => exact absurd established (regular _ _)
  | closes established => exact absurd established (regular _ _)
  | moves held => exact consistent.of_connection held _ before.tcpmig
  | polls found same fewer =>
    obtain ⟨registered, apart⟩ := consistent.queued _ _ found
    obtain ⟨registered', remotes⟩ := registered.of_poll same fewer
    refine consistent.of_passive registered' ?_
    intro remote waits
    exact apart remote (remotes ▸ waits)
  | accepts listening accepted => exact consistent.of_accepts accepted
  | buffers => exact consistent.of_tcpmig _
  | shakes found ready =>
    obtain ⟨registered, apart⟩ := consistent.queued _ _ found
    rw [← ready] at registered apart
    exact consistent.of_passive registered apart
  | completes found unclaimed unrecorded opened pushed =>
    refine consistent.of_push found pushed ?_
    rw [(PassiveSocket.opened_remote opened).2, ← AList.lookup_eq_none]
    exact unclaimed
  | migrates received acts =>
    refine (consistent.of_tcpmig _).of_acts acts ?_
    rintro state rfl
    exact regular _ _ received
  | initiatesByAddr _ initiates => exact consistent.of_initiates initiates
  | initiatesByQd _ initiates => exact consistent.of_initiates initiates
  | exports exported => exact consistent.of_exports exported
  | registers => exact consistent.of_tcpmig _

end ServerTables

end Capybara
