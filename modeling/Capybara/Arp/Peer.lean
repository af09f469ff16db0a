import Capybara.Runtime.Buffer
import Capybara.Lib.Tables
import Capybara.Lib.Wire

/-!
# The ARP peer

`inetstack/protocols/arp/peer.rs` with what it uses of the cache, of its packets and of
`with_timeout`: the table of waiters, the packets received and the queries, which are futures
polled in any order.

A query is given by a number, in the order in which the queries are made, and so is the
oneshot channel it waits on, since it makes one at most. Dropping a sender closes its channel
unless a value has been sent; a closed channel makes its query panic. A timer is known by its
expiry, and is ready from then on. `select!` looks at the channel and at the timer in an order
of its own choice, which is an input of the poll.

The values that have died in the cache are never read, so that only the living ones are kept.
-/

namespace Capybara

open Tables Wire

/-! ## The cache -/

/-- `hashttlcache::Record`. -/
structure TtlRecord where
  value : MacAddress
  expiration : Option Instant
  deriving DecidableEq, Repr

/-- `Record::has_expired`. -/
def TtlRecord.hasExpired (record : TtlRecord) (now : Instant) : Bool :=
  match record.expiration with
  | some expiration => decide (expiration ≤ now)
  | none => false

/-- `ArpCache` with its `HashTtlCache`. -/
structure ArpCache where
  map : Table Ipv4Addr TtlRecord
  defaultTtl : Option Duration
  clock : Instant
  disable : Bool

namespace ArpCache

/-- `DUMMY_MAC_ADDRESS`. -/
def DUMMY_MAC_ADDRESS : MacAddress := 0

/-- `HashTtlCache::cleanup`. -/
def cleanup (cache : ArpCache) : ArpCache :=
  let dead := cache.map.entries.filter (·.2.hasExpired cache.clock)
  { cache with map := dead.foldl (fun map entry => map.erase entry.1) cache.map }

/-- `ArpCache::insert`. -/
def insert (cache : ArpCache) (ipv4Addr : Ipv4Addr) (linkAddr : MacAddress) :
    Checked ArpCache := do
  if cache.defaultTtl = some 0 then throw .zeroTtl
  let expiration := cache.defaultTtl.map (cache.clock + ·)
  let cache := cache.cleanup
  return { cache with map := cache.map.insert ipv4Addr ⟨linkAddr, expiration⟩ }

/-- `ArpCache::get`. -/
def get (cache : ArpCache) (ipv4Addr : Ipv4Addr) : Option MacAddress :=
  if cache.disable then some DUMMY_MAC_ADDRESS
  else (cache.map.lookup ipv4Addr).map (·.value)

/-- `ArpCache::advance_clock`. -/
def advanceClock (cache : ArpCache) (now : Instant) : Checked ArpCache :=
  if cache.clock ≤ now then .ok { cache with clock := now } else .error .clockBackwards

/-- `ArpCache::new`. -/
def new (now : Instant) (defaultTtl : Option Duration)
    (values : List (Ipv4Addr × MacAddress)) (disable : Bool) : Checked ArpCache := do
  if defaultTtl = some 0 then throw .zeroTtl
  values.foldlM (fun cache value => cache.insert value.1 value.2) ⟨∅, defaultTtl, now, disable⟩

end ArpCache

/-! ## Packets -/

/-- `ArpOperation`. -/
inductive ArpOperation where
  | request
  | reply
  deriving DecidableEq, Repr

/-- `ArpHeader`. -/
structure ArpHeader where
  operation : ArpOperation
  senderHardwareAddr : MacAddress
  senderProtocolAddr : Ipv4Addr
  targetHardwareAddr : MacAddress
  targetProtocolAddr : Ipv4Addr
  deriving DecidableEq, Repr

/-- `ArpMessage`, whose Ethernet type is always that of ARP. -/
structure ArpMessage where
  dstLinkAddr : MacAddress
  srcLinkAddr : MacAddress
  header : ArpHeader
  deriving DecidableEq, Repr

namespace ArpHeader

/-- `ARP_MESSAGE_SIZE`. -/
def ARP_MESSAGE_SIZE : Nat := 28

/-- A big-endian number of the given width at an offset. -/
def readAt (buf : Buffer) (offset width : Nat) : Nat := ofBigEndian ((buf.drop offset).take width)

/-- `ArpHeader::parse`. -/
def parse (buf : Buffer) : Except Fail ArpHeader := do
  if buf.length < ARP_MESSAGE_SIZE then throw ⟨.EBADMSG, "ARP message too short"⟩
  if readAt buf 0 2 ≠ 1 then throw ⟨.ENOTSUP, "unsupported HTYPE"⟩
  if readAt buf 2 2 ≠ 0x800 then throw ⟨.ENOTSUP, "unsupported PTYPE"⟩
  if readAt buf 4 1 ≠ 6 then throw ⟨.ENOTSUP, "unsupported HLEN"⟩
  if readAt buf 5 1 ≠ 4 then throw ⟨.ENOTSUP, "unsupported PLEN"⟩
  let operation ← match readAt buf 6 2 with
    | 1 => .ok .request
    | 2 => .ok .reply
    | _ => .error ⟨.ENOTSUP, "unsupported OPER"⟩
  return {
    operation
    senderHardwareAddr := BitVec.ofNat 48 (readAt buf 8 6)
    senderProtocolAddr := BitVec.ofNat 32 (readAt buf 14 4)
    targetHardwareAddr := BitVec.ofNat 48 (readAt buf 18 6)
    targetProtocolAddr := BitVec.ofNat 32 (readAt buf 24 4) }

end ArpHeader

/-! ## The peer -/

/-- The number of a query and of its channel. -/
abbrev QueryId := Nat

/-- The oneshot channel of a query. -/
inductive ArpChannel where
  /-- The sender is alive and has sent nothing. -/
  | empty
  | sent (linkAddr : MacAddress)
  /-- The sender has been dropped without sending. -/
  | closed
  deriving DecidableEq, Repr

/-- `ArpConfig`, without the values for the cache. -/
structure ArpConfig where
  requestTimeout : Duration
  retryCount : Nat
  deriving DecidableEq, Repr

/-- `ArpPeer`, with the channels that its queries have made and the messages transmitted. -/
structure ArpPeer where
  localLinkAddr : MacAddress
  localIpv4Addr : Ipv4Addr
  arpConfig : ArpConfig
  clock : Instant
  cache : ArpCache
  waiters : Table Ipv4Addr (List QueryId)
  channels : QueryId → ArpChannel
  transmitted : List ArpMessage

namespace ArpPeer

/-- `Sender::send`. -/
def send (peer : ArpPeer) (linkAddr : MacAddress) (sender : QueryId) : ArpPeer :=
  { peer with channels := Function.update peer.channels sender (.sent linkAddr) }

/-- The end of a sender that has sent nothing. -/
def dropSender (peer : ArpPeer) (sender : QueryId) : ArpPeer :=
  { peer with channels := Function.update peer.channels sender .closed }

/-- `NetworkRuntime::transmit`. -/
def transmit (peer : ArpPeer) (message : ArpMessage) : ArpPeer :=
  { peer with transmitted := message :: peer.transmitted }

/-- `do_drop`. -/
def doDrop (peer : ArpPeer) (ipv4Addr : Ipv4Addr) : ArpPeer :=
  let waitQueue := (peer.waiters.lookup ipv4Addr).getD []
  waitQueue.foldl dropSender { peer with waiters := peer.waiters.erase ipv4Addr }

/-- `do_insert`. -/
def doInsert (peer : ArpPeer) (ipv4Addr : Ipv4Addr) (linkAddr : MacAddress) :
    Checked ArpPeer := do
  let waitQueue := (peer.waiters.lookup ipv4Addr).getD []
  let peer := waitQueue.foldl (·.send linkAddr ·)
    { peer with waiters := peer.waiters.erase ipv4Addr }
  let cache ← peer.cache.insert ipv4Addr linkAddr
  return { peer with cache }

/-- `do_wait_link_addr`, by the query of the given number. -/
def doWaitLinkAddr (peer : ArpPeer) (query : QueryId) (ipv4Addr : Ipv4Addr) : ArpPeer :=
  let peer := { peer with channels := Function.update peer.channels query .empty }
  match peer.cache.get ipv4Addr with
  | some linkAddr => peer.send linkAddr query
  | none =>
    let waitQueue := (peer.waiters.lookup ipv4Addr).getD []
    { peer with waiters := peer.waiters.insert ipv4Addr (waitQueue ++ [query]) }

/-- The end of `receive`: a request is replied to, a reply is cached once more. -/
def answer (peer : ArpPeer) (header : ArpHeader) : Checked ArpPeer :=
  match header.operation with
  | .request =>
    return peer.transmit {
      dstLinkAddr := header.senderHardwareAddr
      srcLinkAddr := peer.localLinkAddr
      header := ⟨.reply, peer.localLinkAddr, peer.localIpv4Addr, header.senderHardwareAddr,
        header.senderProtocolAddr⟩ }
  | .reply => do
    let cache ← peer.cache.insert header.senderProtocolAddr header.senderHardwareAddr
    return { peer with cache }

/-- `receive`. -/
def receive (peer : ArpPeer) (buf : Buffer) : Checked (ArpPeer × Except Fail Unit) :=
  match ArpHeader.parse buf with
  | .error fail => return (peer, .error fail)
  | .ok header => do
    let sender := header.senderProtocolAddr
    let merge := (peer.cache.get sender).isSome
    let peer ← if merge then peer.doInsert sender header.senderHardwareAddr else pure peer
    if header.targetProtocolAddr ≠ peer.localIpv4Addr then
      if merge then return (peer, .ok ())
      else return (peer, .error ⟨.EBADMSG, "unrecognized IP address"⟩)
    let peer ← if merge then pure peer else peer.doInsert sender header.senderHardwareAddr
    let peer ← peer.answer header
    return (peer, .ok ())

end ArpPeer

/-! ## Queries -/

/-- What `select!` ends with. -/
inductive Selected where
  | response (linkAddr : MacAddress)
  | timedOut
  | pending
  deriving DecidableEq, Repr

/-- A poll of the channel's receiver, with the result expected. -/
def ArpChannel.poll : ArpChannel → Checked Selected
  | .empty => .ok .pending
  | .sent linkAddr => .ok (.response linkAddr)
  | .closed => .error .droppedWaiter

/-- `with_timeout`, looking at the timer first or at the channel first. -/
def ArpChannel.withTimeout (channel : ArpChannel) (timerFirst expired : Bool) :
    Checked Selected :=
  if timerFirst && expired then .ok .timedOut
  else do
    match ← channel.poll with
    | .pending => return if expired then .timedOut else .pending
    | selected => return selected

/-- Where a future of `ArpPeer::query` stands. -/
inductive ArpQuery where
  /-- It has not been polled. -/
  | created (ipv4Addr : Ipv4Addr)
  /-- It waits in an attempt that this many more may follow. -/
  | waiting (ipv4Addr : Ipv4Addr) (left : Nat) (expiry : Instant)
  | completed (result : Except Fail MacAddress)
  deriving DecidableEq, Repr

namespace ArpPeer

/-- `MacAddress::broadcast`. -/
def BROADCAST : MacAddress := 0xffffffffffff

/-- The request for an address. -/
def request (peer : ArpPeer) (ipv4Addr : Ipv4Addr) : ArpMessage where
  dstLinkAddr := BROADCAST
  srcLinkAddr := peer.localLinkAddr
  header := ⟨.request, peer.localLinkAddr, peer.localIpv4Addr, BROADCAST, ipv4Addr⟩

/-- One attempt of `query`, with what follows when it times out. -/
def await (peer : ArpPeer) (query : QueryId) (ipv4Addr : Ipv4Addr) (timerFirst : Bool)
    (left : Nat) (expiry : Instant) (timedOut : Checked (ArpPeer × ArpQuery)) :
    Checked (ArpPeer × ArpQuery) := do
  match ← (peer.channels query).withTimeout timerFirst (expiry ≤ peer.clock) with
  | .response linkAddr => return (peer, .completed (.ok linkAddr))
  | .pending => return (peer, .waiting ipv4Addr left expiry)
  | .timedOut => timedOut

/-- The attempts of `query` from one whose request has been transmitted. Which future
`select!` looks at first may differ from one attempt to the next. -/
def attempt (query : QueryId) (ipv4Addr : Ipv4Addr) (timerFirst : Nat → Bool) (peer : ArpPeer) :
    Nat → Instant → Checked (ArpPeer × ArpQuery)
  | 0, expiry =>
    peer.await query ipv4Addr (timerFirst 0) 0 expiry
      (.ok (peer.doDrop ipv4Addr, .completed (.error ⟨.ETIMEDOUT, "ARP query timeout"⟩)))
  | left + 1, expiry =>
    peer.await query ipv4Addr (timerFirst (left + 1)) (left + 1) expiry
      (attempt query ipv4Addr timerFirst (peer.transmit (peer.request ipv4Addr)) left
        (peer.clock + peer.arpConfig.requestTimeout))

/-- A poll of the future of `query`. One that has completed is not polled again. -/
def pollQuery (profile : Profile) (peer : ArpPeer) (query : QueryId)
    (timerFirst : Nat → Bool) : ArpQuery → Checked (ArpPeer × ArpQuery)
  | .created ipv4Addr =>
    match peer.cache.get ipv4Addr with
    | some linkAddr => return (peer, .completed (.ok linkAddr))
    | none => do
      let peer := peer.doWaitLinkAddr query ipv4Addr
      match ← addUsize profile peer.arpConfig.retryCount 1 with
      | 0 => return (peer.doDrop ipv4Addr, .completed (.error ⟨.ETIMEDOUT, "ARP query timeout"⟩))
      | left + 1 =>
        attempt query ipv4Addr timerFirst (peer.transmit (peer.request ipv4Addr)) left
          (peer.clock + peer.arpConfig.requestTimeout)
  | .waiting ipv4Addr left expiry => attempt query ipv4Addr timerFirst peer left expiry
  | .completed result => return (peer, .completed result)

/-- `ArpPeer::new`. -/
def new (now : Instant) (localLinkAddr : MacAddress) (localIpv4Addr : Ipv4Addr)
    (arpConfig : ArpConfig) (cacheTtl : Duration) (initialValues : List (Ipv4Addr × MacAddress))
    (disableArp : Bool) : Checked ArpPeer := do
  let cache ← ArpCache.new now (some cacheTtl) initialValues disableArp
  return {
    localLinkAddr, localIpv4Addr, arpConfig, cache
    clock := now
    waiters := ∅
    channels := fun _ => .closed
    transmitted := [] }

end ArpPeer

/-- The peer with the queries made so far. -/
structure ArpQueries where
  peer : ArpPeer
  queries : List ArpQuery

/-- What happens to the peer. -/
inductive ArpAction where
  /-- A query is made. -/
  | query (ipv4Addr : Ipv4Addr)
  /-- The future of a query is polled. -/
  | poll (query : QueryId) (timerFirst : Nat → Bool)
  /-- A packet is received. -/
  | receive (buf : Buffer)
  /-- A mapping is inserted. -/
  | insert (ipv4Addr : Ipv4Addr) (linkAddr : MacAddress)
  /-- The clock advances. -/
  | advance (now : Instant)
  /-- The background task sets the clock of the cache. -/
  | background

namespace ArpQueries

/-- A peer without queries. -/
def start (peer : ArpPeer) : ArpQueries := ⟨peer, []⟩

/-- One action. The background task may run at any time. -/
def step (profile : Profile) (state : ArpQueries) : ArpAction → Checked ArpQueries
  | .query ipv4Addr => .ok { state with queries := state.queries ++ [.created ipv4Addr] }
  | .poll query timerFirst =>
    match state.queries[query]? with
    | none => .ok state
    | some future => do
      let (peer, future) ← state.peer.pollQuery profile query timerFirst future
      return ⟨peer, state.queries.set query future⟩
  | .receive buf => do
    let (peer, _) ← state.peer.receive buf
    return { state with peer }
  | .insert ipv4Addr linkAddr => do
    return { state with peer := ← state.peer.doInsert ipv4Addr linkAddr }
  | .advance now =>
    if state.peer.clock ≤ now then .ok { state with peer := { state.peer with clock := now } }
    else .error .clockBackwards
  | .background => do
    let cache ← state.peer.cache.advanceClock state.peer.clock
    return { state with peer := { state.peer with cache } }

end ArpQueries

end Capybara
