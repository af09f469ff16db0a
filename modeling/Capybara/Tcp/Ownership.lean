import Capybara.Tcp.Cluster
import Mathlib.Algebra.BigOperators.Group.Finset.Basic
import Mathlib.Algebra.Order.BigOperators.Group.Finset

/-!
# Who holds a connection

A client that opens one connection at a time has it at one server, however often and
wherever the connection migrates: as long as no record that awaits a state gets one for a second time, a
connection that has left a server is held by none until its state has been imported, and
what is then imported is what has left. Every other message of the migrations may be
repeated or made up.

A connection rests with a server or it travels. While it travels its pieces are divided
among the network and the records that have stored some of them, each piece being in at
most one place. The record that gets the last one has all the others, so nothing is left
of the state elsewhere when it is imported.
-/

namespace Capybara

open Tables TcpMigDefragmenter

namespace Cluster

variable {ι κ ρ : Type} [DecidableEq ι]

/-! ## What a run has done -/

/-- The server that goes on in an action, and its operation. -/
def operation (cluster : Cluster ι κ ρ) : ClusterAction ι → Option (ι × Operation)
  | .acts server operation => some (server, operation)
  | .arrives server index => cluster.network[index]?.map fun segment =>
      (server, .message segment.ipv4Hdr segment.datagram)
  | .loses _ => none

/-- The clients that get a new connection. -/
def opened (transition : Transition ι κ ρ) : List SocketAddrV4 :=
  match transition.source.operation transition.action with
  | none => []
  | some (server, operation) => (transition.source.servers server).tables.opened
      (transition.target.servers server).tables operation

/-- The connections that leave their server. -/
def departed (transition : Transition ι κ ρ) : List (ControlBlock κ ρ) :=
  match transition.source.operation transition.action with
  | none => []
  | some (server, _) => (transition.source.servers server).tables.departed
      (transition.target.servers server).tables

/-- The connections that are imported. -/
def arrived (transition : Transition ι κ ρ) : List (ControlBlock κ ρ) :=
  match transition.source.operation transition.action with
  | none => []
  | some (server, operation) => (transition.source.servers server).tables.arrived
      (transition.target.servers server).tables operation

/-- The clients that have got a connection, one for each that they have got. -/
def clients (past : List (Transition ι κ ρ)) : List SocketAddrV4 := past.flatMap opened

/-- The connections of a client that have left a server, the last one first. -/
def departures (client : SocketAddrV4) (past : List (Transition ι κ ρ)) :
    List (ControlBlock κ ρ) :=
  past.flatMap fun transition => (departed transition).filter fun cb => cb.remote = client

/-- The connections of a client that have been imported, the last one first. -/
def arrivals (client : SocketAddrV4) (past : List (Transition ι κ ρ)) :
    List (ControlBlock κ ρ) :=
  past.flatMap fun transition => (arrived transition).filter fun cb => cb.remote = client

/-- Whatever else a server receives, repeated or made up, it is not a state for a record that
awaits one. -/
def Kept (cluster : Cluster ι κ ρ) (action : ClusterAction ι) : Prop :=
  ∀ stray ∈ strays action, ∀ parsed ∈ (TcpMigHeader.parse stray.2.1 stray.2.2).toOption,
    parsed.1.stage = .connectionState →
      (cluster.servers stray.1).tcpmig.collecting parsed.1.client = none

omit [DecidableEq ι] in
instance (cluster : Cluster ι κ ρ) (action : ClusterAction ι) : Decidable (cluster.Kept action) :=
  inferInstanceAs (Decidable (∀ stray ∈ strays action, ∀ parsed ∈
    (TcpMigHeader.parse stray.2.1 stray.2.2).toOption, _ → _ = none))

/-- How many connections with the client the servers have. -/
def held [Fintype ι] (cluster : Cluster ι κ ρ) (client : SocketAddrV4) : Nat :=
  ∑ server, (cluster.servers server).tables.held client

/-! ## Resting and travelling -/

/-- No piece of a state of the client is on its way or stored. -/
structure Rests (client : SocketAddrV4) (cluster : Cluster ι κ ρ) : Prop where
  network : cluster.network.filter (·.carries client) = []
  records : ∀ server defragmenter,
    (cluster.servers server).tcpmig.collecting client = some defragmenter → defragmenter = .new

/-- The pieces of an exported connection are on their way, or stored by the records. -/
structure Carried (client : SocketAddrV4) (segment : TcpMigSegment) (pieces : List Buffer)
    (flying : List Nat) (stored : ι → Finset Nat) (cluster : Cluster ι κ ρ) : Prop where
  network : cluster.network.filter (·.carries client) = flying.map (piece segment pieces)
  distinct : flying.Nodup
  inside : ∀ position ∈ flying, position < pieces.length
  records : ∀ server defragmenter,
    (cluster.servers server).tcpmig.collecting client = some defragmenter →
      Collects pieces (stored server) defragmenter
  apart : ∀ server, ∀ position ∈ stored server, position ∉ flying
  once : ∀ server other, server ≠ other → Disjoint (stored server) (stored other)

/-- A connection that has left a server travels. -/
def Travels (origin : ControlBlock κ ρ) (cluster : Cluster ι κ ρ) : Prop :=
  origin.Exportable ∧ ∃ segment pieces sent flying stored,
    TcpState.Image origin.exported pieces.flatten ∧ Fragmented segment pieces sent ∧
      segment.tcpmigHdr.client = origin.remote ∧ segment.tcpmigHdr.stage = .connectionState ∧
      Carried origin.remote segment pieces flying stored cluster

/-- Nothing new is on its way or stored. -/
structure Calms (client : SocketAddrV4) (cluster cluster' : Cluster ι κ ρ) : Prop where
  network : (cluster'.network.filter (·.carries client)).Sublist
    (cluster.network.filter (·.carries client))
  records : ∀ server defragmenter,
    (cluster'.servers server).tcpmig.collecting client = some defragmenter →
      (cluster.servers server).tcpmig.collecting client = some defragmenter ∨ defragmenter = .new

variable {cluster cluster' : Cluster ι κ ρ} {client : SocketAddrV4} {origin : ControlBlock κ ρ}

omit [DecidableEq ι] in
/-- What rests still rests after something calm. -/
theorem Rests.calms (rests : cluster.Rests client) (calms : Calms client cluster cluster') :
    cluster'.Rests client := by
  refine ⟨List.sublist_nil.mp (rests.network ▸ calms.network), fun server defragmenter found => ?_⟩
  obtain before | fresh := calms.records server defragmenter found
  · exact rests.records server defragmenter before
  · exact fresh

omit [DecidableEq ι] in
/-- No piece is delivered while nothing is on its way. -/
theorem Rests.not_delivered {delivered : TcpMigSegment} (rests : cluster.Rests client)
    (carries : delivered.carries client = true) (index : Nat) :
    cluster.network[index]? ≠ some delivered := by
  intro found
  exact List.filter_eq_nil_iff.mp rests.network delivered (List.mem_of_getElem? found) carries

omit [DecidableEq ι] in
/-- Pieces may be lost, and so may records with what they have stored. -/
theorem Travels.calms (travels : cluster.Travels origin)
    (calms : Calms origin.remote cluster cluster') : cluster'.Travels origin := by
  obtain ⟨exportable, segment, pieces, sent, flying, stored, image, fragmented, about, stage,
    carried⟩ := travels
  obtain ⟨flying', fewer, network⟩ := List.sublist_map_iff.mp (carried.network ▸ calms.network)
  refine ⟨exportable, segment, pieces, sent, flying', fun server =>
    if (cluster'.servers server).tcpmig.collecting origin.remote =
      (cluster.servers server).tcpmig.collecting origin.remote then stored server else ∅,
    image, fragmented, about, stage, network, carried.distinct.sublist fewer, ?_, ?_, ?_, ?_⟩
  · exact fun position member => carried.inside position (fewer.subset member)
  · intro server defragmenter found
    split
    · rename_i same
      exact carried.records server defragmenter (same ▸ found)
    · rename_i different
      obtain before | fresh := calms.records server defragmenter found
      · exact absurd (found.trans before.symm) different
      · rw [fresh]
        exact Collects.new pieces
  · intro server position member flies
    split at member
    · exact carried.apart server position member (fewer.subset flies)
    · cases member
  · intro server other different
    split
    · split
      · exact carried.once server other different
      · exact Finset.disjoint_empty_right _
    · exact Finset.disjoint_empty_left _

omit [DecidableEq ι] in
/-- A message that is delivered is one of those on their way. -/
theorem Carried.piece_arrives {segment delivered : TcpMigSegment} {pieces : List Buffer}
    {flying : List Nat} {stored : ι → Finset Nat} {index : Nat}
    (carried : Carried client segment pieces flying stored cluster)
    (found : cluster.network[index]? = some delivered) (carries : delivered.carries client = true) :
    ∃ (position : Nat) (flying' : List Nat), delivered = piece segment pieces position ∧
      (cluster.network.eraseIdx index).filter (·.carries client) =
        flying'.map (piece segment pieces) ∧
      flying'.Nodup ∧ position ∉ flying' ∧
      ∀ other, other ∈ flying ↔ other = position ∨ other ∈ flying' := by
  obtain ⟨inside, rfl⟩ := List.getElem?_eq_some_iff.mp found
  have split : cluster.network =
      cluster.network.take index ++ cluster.network[index] :: cluster.network.drop (index + 1) := by
    rw [← List.drop_eq_getElem_cons inside, List.take_append_drop]
  have network := carried.network
  rw [split, List.filter_append, List.filter_cons_of_pos carries] at network
  obtain ⟨front, behind, rfl, front_eq, behind_eq⟩ := List.append_eq_map_iff.mp network
  obtain ⟨position, later, rfl, delivered, later_eq⟩ := List.map_eq_cons_iff.mp behind_eq
  have distinct := carried.distinct
  have around := List.nodup_middle.mp distinct
  refine ⟨position, front ++ later, delivered.symm, ?_, (List.nodup_cons.mp around).2,
    (List.nodup_cons.mp around).1, fun other => ?_⟩
  · rw [List.eraseIdx_eq_take_drop_succ, List.filter_append, ← front_eq, ← later_eq,
      List.map_append]
  · simp only [List.mem_append, List.mem_cons]
    tauto

/-- A message of a state that is no piece of one is read as an empty state. -/
theorem idle_of_not_carries {segment : TcpMigSegment} (stage : segment.tcpmigHdr.stage = .connectionState)
    (idle : segment.carries segment.tcpmigHdr.client = false) :
    segment.tcpmigHdr.flagNextFragment = false ∧ segment.tcpmigHdr.fragmentOffset = 0 ∧
      segment.data = [] := by
  unfold TcpMigSegment.carries at idle
  rw [decide_eq_false_iff_not] at idle
  by_contra something
  exact idle ⟨stage, rfl, something⟩

variable {profile : Profile} {server : ι} {inner : Inner κ ρ} {index : Nat}
  {delivered : TcpMigSegment} {defragmenter further : TcpMigDefragmenter}

/-- What the record of a server collects after it has gone on. -/
theorem collecting_goesOn {network : List TcpMigSegment} {now : Option TcpMigDefragmenter}
    (collecting : inner.tcpmig.collecting client = now) (other : ι) :
    ((cluster.goesOn server inner network).servers other).tcpmig.collecting client =
      if other = server then now else (cluster.servers other).tcpmig.collecting client := by
  change (Function.update cluster.servers server inner other).tcpmig.collecting client = _
  by_cases same : other = server
  · rw [same, Function.update_self, if_pos rfl, collecting]
  · rw [Function.update_of_ne same, if_neg same]

/-- The network after a server has gone on, as far as states are concerned. -/
theorem network_goesOn {network sent : List TcpMigSegment}
    (transmitted : inner.tcpmig.transmitted = (cluster.servers server).tcpmig.transmitted ++ sent) :
    (cluster.goesOn server inner network).network = network ++ sent := by
  change network ++ inner.tcpmig.transmitted.drop _ = _
  rw [transmitted, List.drop_left]

/-- Messages without a state carry nothing of any client. -/
theorem silent_filter {sent : List TcpMigSegment}
    (silent : ∀ segment ∈ sent, segment.tcpmigHdr.stage ≠ .connectionState) (client : SocketAddrV4) :
    sent.filter (·.carries client) = [] := by
  refine List.filter_eq_nil_iff.mpr fun segment member carries => ?_
  unfold TcpMigSegment.carries at carries
  exact silent segment member (of_decide_eq_true carries).1

/-- A message that gives a record something carries a piece. -/
theorem carries_of_gathered {outcome : Option (TcpMigHeader × Buffer)}
    (stage : delivered.tcpmigHdr.stage = .connectionState)
    (gathered : defragmenter.defragment profile delivered.tcpmigHdr delivered.data =
      .ok (further, outcome))
    (useful : ∀ whole bytes, outcome = some (whole, bytes) → bytes ≠ []) :
    delivered.carries delivered.tcpmigHdr.client = true := by
  by_contra idle
  obtain ⟨last, first, empty⟩ := idle_of_not_carries stage (Bool.eq_false_iff.mpr idle)
  unfold TcpMigDefragmenter.defragment at gathered
  rw [if_pos ⟨last, first⟩, empty] at gathered
  cases gathered
  exact useful _ _ rfl rfl

omit [DecidableEq ι] in
/-- A piece that is delivered to a record that awaits it. -/
theorem Carried.receives {segment : TcpMigSegment} {pieces : List Buffer}
    {sent : List TcpMigSegment} {flying : List Nat} {stored : ι → Finset Nat}
    {outcome : Option (TcpMigHeader × Buffer)}
    (carried : Carried client segment pieces flying stored cluster)
    (fragmented : Fragmented segment pieces sent)
    (found : cluster.network[index]? = some delivered) (carries : delivered.carries client = true)
    (collected : (cluster.servers server).tcpmig.collecting client = some defragmenter)
    (gathered : defragmenter.defragment profile delivered.tcpmigHdr delivered.data =
      .ok (further, outcome)) :
    (outcome = some (joinedHeader segment, pieces.flatten) ∧
      (cluster.network.eraseIdx index).filter (·.carries client) = [] ∧
      ∀ other, other ≠ server → ∀ defragmenter,
        (cluster.servers other).tcpmig.collecting client = some defragmenter → defragmenter = .new) ∨
    (outcome = none ∧ ∃ (position : Nat) (flying' : List Nat),
      Collects pieces (insert position (stored server)) further ∧
      (cluster.network.eraseIdx index).filter (·.carries client) =
        flying'.map (piece segment pieces) ∧
      flying'.Nodup ∧ position ∉ flying' ∧
      ∀ other, other ∈ flying ↔ other = position ∨ other ∈ flying') := by
  obtain ⟨position, flying', rfl, network, distinct, absent, flies⟩ :=
    carried.piece_arrives found carries
  have inside := carried.inside position ((flies position).mpr (.inl rfl))
  have missing : position ∉ stored server := fun member =>
    carried.apart server position member ((flies position).mpr (.inl rfl))
  have collects := carried.records server defragmenter collected
  obtain ⟨complete, after, returned⟩ | ⟨-, after, further', returned⟩ :=
    collects.defragment profile segment fragmented.few fragmented.filled inside missing
  · cases returned.symm.trans gathered
    -- the record has every piece, so there is none elsewhere
    have everything (other : Nat) (bound : other < pieces.length) :
        other = position ∨ other ∈ stored server := by
      rw [← Finset.mem_insert, complete]
      exact Finset.mem_range.mpr bound
    refine .inl ⟨rfl, ?_, fun other different defragmenter found => ?_⟩
    · have none_ : flying' = [] := by
        refine List.eq_nil_iff_forall_not_mem.mpr fun other member => ?_
        have flying_ := (flies other).mpr (.inr member)
        obtain rfl | held := everything other (carried.inside other flying_)
        · exact absent member
        · exact carried.apart server other held flying_
      rw [network, none_]
      rfl
    · have elsewhere := carried.records other defragmenter found
      refine elsewhere.fresh (Finset.eq_empty_of_forall_notMem fun held member => ?_)
      have bound := Finset.mem_range.mp (elsewhere.subset member)
      obtain rfl | twice := everything held bound
      · exact carried.apart other held member ((flies held).mpr (.inl rfl))
      · exact Finset.disjoint_left.mp (carried.once other server different) member twice
  · cases returned.symm.trans gathered
    exact .inr ⟨rfl, position, flying', further', network, distinct, absent, flies⟩

end Cluster

/-! ## The pieces of a state -/

section Pieces

variable {segment : TcpMigSegment} {pieces : List Buffer} {sent : List TcpMigSegment}

/-- The fragments of a state that is not empty are pieces of it, and others carry nothing. -/
theorem Fragmented.carried (fragmented : Fragmented segment pieces sent)
    (something : pieces.flatten ≠ []) (stage : segment.tcpmigHdr.stage = .connectionState) :
    sent.filter (·.carries segment.tcpmigHdr.client) =
      (List.range pieces.length).map (TcpMigDefragmenter.piece segment pieces) := by
  have long : pieces.length ≤ sent.length := by
    by_contra short
    have found := fragmented.piece sent.length (Nat.lt_of_not_le short)
    rw [List.getElem?_eq_none (Nat.le_refl _)] at found
    cases found
  have front : sent.take pieces.length = (List.range pieces.length).map (TcpMigDefragmenter.piece segment pieces) := by
    refine List.ext_getElem? fun index => ?_
    rw [List.getElem?_take, List.getElem?_map]
    split
    · rename_i inside
      rw [fragmented.piece index inside, List.getElem?_range inside]
      rfl
    · rename_i behind
      rw [List.getElem?_eq_none (by simpa using behind)]
      rfl
  have behind : (sent.drop pieces.length).filter (·.carries segment.tcpmigHdr.client) = [] := by
    refine List.filter_eq_nil_iff.mpr fun fragment member carries => ?_
    obtain ⟨index, found⟩ := List.mem_iff_getElem?.mp member
    rw [List.getElem?_drop] at found
    obtain ⟨empty, header⟩ := fragmented.extra _ fragment (Nat.le_add_right _ _) found
    obtain ⟨-, -, carried⟩ := of_decide_eq_true carries
    rw [header] at carried
    exact carried ⟨rfl, rfl, empty⟩
  have every : ((List.range pieces.length).map (TcpMigDefragmenter.piece segment pieces)).filter
      (·.carries segment.tcpmigHdr.client) = (List.range pieces.length).map (TcpMigDefragmenter.piece segment pieces) := by
    refine List.filter_eq_self.mpr fun fragment member => ?_
    obtain ⟨position, inside, rfl⟩ := List.mem_map.mp member
    rw [List.mem_range] at inside
    refine decide_eq_true ⟨stage, rfl, fun idle => ?_⟩
    by_cases single : pieces.length = 1
    · obtain ⟨whole, rfl⟩ := List.length_eq_one_iff.mp single
      obtain rfl : position = 0 := Nat.lt_one_iff.mp inside
      have empty : whole = [] := idle.2.2
      exact something (by rw [empty]; rfl)
    · exact piece_stores segment fragmented.few single inside ⟨idle.1, idle.2.1⟩
  rw [← List.take_append_drop pieces.length sent, List.filter_append, behind, List.append_nil, front,
    every]

/-- The bytes of a state are not empty. -/
theorem TcpState.Image.ne_nil {cb : ControlBlockState} {bytes : Buffer} (image : Image cb bytes) :
    bytes ≠ [] := by
  obtain ⟨-, written, flag, rest, -, rfl⟩ := image
  simp

end Pieces

namespace Cluster

variable {ι κ ρ : Type} [DecidableEq ι] {cluster : Cluster ι κ ρ} {origin : ControlBlock κ ρ}
  {profile : Profile} {server : ι} {inner : Inner κ ρ} {index : Nat}
  {delivered : TcpMigSegment} {defragmenter further : TcpMigDefragmenter}

/-! ## What a turn does to a client -/

/-- A server goes on without sending a state or storing a piece of one. -/
theorem Calms.of_goesOn {network sent : List TcpMigSegment} (client : SocketAddrV4)
    (fewer : network.Sublist cluster.network)
    (transmitted : inner.tcpmig.transmitted = (cluster.servers server).tcpmig.transmitted ++ sent)
    (silent : sent.filter (·.carries client) = [])
    (collecting : ∀ defragmenter, inner.tcpmig.collecting client = some defragmenter →
      (cluster.servers server).tcpmig.collecting client = some defragmenter ∨
        defragmenter = .new) :
    Calms client cluster (cluster.goesOn server inner network) := by
  constructor
  · rw [network_goesOn transmitted, List.filter_append, silent, List.append_nil]
    exact fewer.filter _
  · intro other defragmenter found
    rw [collecting_goesOn rfl] at found
    split at found
    · rename_i same
      subst same
      exact collecting defragmenter found
    · exact .inl found

/-- A connection that rested with a server leaves. -/
theorem Rests.exports {segment : TcpMigSegment} {pieces : List Buffer}
    {network calm sent : List TcpMigSegment} (rests : cluster.Rests origin.remote)
    (fewer : network.Sublist cluster.network) (exportable : origin.Exportable)
    (image : TcpState.Image origin.exported pieces.flatten)
    (fragmented : Fragmented segment pieces sent)
    (about : segment.tcpmigHdr.client = origin.remote)
    (stage : segment.tcpmigHdr.stage = .connectionState)
    (collecting : ∀ client defragmenter, inner.tcpmig.collecting client = some defragmenter →
      (cluster.servers server).tcpmig.collecting client = some defragmenter ∨ defragmenter = .new)
    (silent : ∀ segment ∈ calm, segment.tcpmigHdr.stage ≠ .connectionState)
    (transmitted : inner.tcpmig.transmitted =
      (cluster.servers server).tcpmig.transmitted ++ calm ++ sent) :
    (cluster.goesOn server inner network).Travels origin := by
  refine ⟨exportable, segment, pieces, sent, List.range pieces.length, fun _ => ∅, image, fragmented,
    about, stage, ?_, List.nodup_range, fun _ => List.mem_range.mp, ?_, ?_, ?_⟩
  · rw [List.append_assoc] at transmitted
    rw [network_goesOn transmitted, List.filter_append, List.filter_append, silent_filter silent,
      ← about, fragmented.carried image.ne_nil stage]
    have nothing := List.sublist_nil.mp (rests.network ▸ fewer.filter _)
    rw [about, nothing]
    rfl
  · intro other defragmenter found
    have fresh : defragmenter = .new := by
      rw [collecting_goesOn rfl] at found
      split at found
      · rename_i same
        subst same
        obtain before | fresh := collecting _ _ found
        · exact rests.records other defragmenter before
        · exact fresh
      · exact rests.records other defragmenter found
    rw [fresh]
    exact Collects.new pieces
  · exact fun _ _ member => by cases member
  · exact fun _ _ _ => Finset.disjoint_empty_left _

/-- A piece is stored. -/
theorem Travels.gathers (travels : cluster.Travels origin)
    (found : cluster.network[index]? = some delivered)
    (stage : delivered.tcpmigHdr.stage = .connectionState)
    (about : delivered.tcpmigHdr.client = origin.remote)
    (collected : (cluster.servers server).tcpmig.collecting origin.remote = some defragmenter)
    (gathered : defragmenter.defragment profile delivered.tcpmigHdr delivered.data =
      .ok (further, none))
    (collecting : inner.tcpmig.collecting origin.remote = some further)
    (transmitted : inner.tcpmig.transmitted = (cluster.servers server).tcpmig.transmitted) :
    (cluster.goesOn server inner (cluster.network.eraseIdx index)).Travels origin := by
  obtain ⟨exportable, segment, pieces, sent, flying, stored, image, fragmented, about', stage',
    carried⟩ := travels
  have carries := carries_of_gathered stage gathered (fun _ _ same => by cases same)
  rw [about] at carries
  obtain ⟨impossible, -⟩ | ⟨-, position, flying', further', network, distinct, absent, flies⟩ :=
    carried.receives fragmented found carries collected gathered
  · cases impossible
  refine ⟨exportable, segment, pieces, sent, flying',
    Function.update stored server (insert position (stored server)), image, fragmented, about',
    stage', ?_, distinct, ?_, ?_, ?_, ?_⟩
  · rw [network_goesOn (by rw [transmitted, List.append_nil]), List.append_nil, network]
  · exact fun other member => carried.inside other ((flies other).mpr (.inr member))
  · intro other defragmenter now
    rw [collecting_goesOn collecting] at now
    split at now
    · rename_i same
      cases now
      rw [same, Function.update_self]
      exact further'
    · rename_i different
      rw [Function.update_of_ne different]
      exact carried.records other defragmenter now
  · intro other held member flies_
    have before := (flies held).mpr (.inr flies_)
    by_cases same : other = server
    · rw [same, Function.update_self, Finset.mem_insert] at member
      obtain rfl | member := member
      · exact absent flies_
      · exact carried.apart server held member before
    · rw [Function.update_of_ne same] at member
      exact carried.apart other held member before
  · have elsewhere (other : ι) (different : other ≠ server) :
        Disjoint (insert position (stored server)) (stored other) := by
      rw [Finset.disjoint_insert_left]
      refine ⟨fun member => ?_, carried.once server other different.symm⟩
      exact carried.apart other position member ((flies position).mpr (.inl rfl))
    intro first second different
    by_cases same : first = server
    · subst same
      rw [Function.update_self, Function.update_of_ne different.symm]
      exact elsewhere second different.symm
    · by_cases same' : second = server
      · subst same'
        rw [Function.update_self, Function.update_of_ne same]
        exact (elsewhere first same).symm
      · rw [Function.update_of_ne same, Function.update_of_ne same']
        exact carried.once first second different

/-- A state is imported: it is the one that has left, and nothing of it remains. -/
theorem Travels.imports {whole : TcpMigHeader} {bytes : Buffer} {read : TcpState}
    {sent : List TcpMigSegment} (travels : cluster.Travels origin)
    (found : cluster.network[index]? = some delivered)
    (stage : delivered.tcpmigHdr.stage = .connectionState)
    (about : delivered.tcpmigHdr.client = origin.remote)
    (collected : (cluster.servers server).tcpmig.collecting origin.remote = some defragmenter)
    (gathered : defragmenter.defragment profile delivered.tcpmigHdr delivered.data =
      .ok (further, some (whole, bytes)))
    (decoded : TcpState.deserialize profile bytes = .ok read)
    (collecting : inner.tcpmig.collecting origin.remote = none)
    (transmitted : inner.tcpmig.transmitted = (cluster.servers server).tcpmig.transmitted ++ sent)
    (silent : ∀ segment ∈ sent, segment.tcpmigHdr.stage ≠ .connectionState) :
    read.cb = origin.exported.untimed ∧
      (cluster.goesOn server inner (cluster.network.eraseIdx index)).Rests origin.remote := by
  obtain ⟨exportable, segment, pieces, sent', flying, stored, image, fragmented, about', stage',
    carried⟩ := travels
  have carries := carries_of_gathered stage gathered (by
    rintro _ _ ⟨⟩ rfl
    exact TcpState.deserialize_nil profile read decoded)
  rw [about] at carries
  obtain ⟨same, network, others⟩ | ⟨impossible, -⟩ :=
    carried.receives fragmented found carries collected gathered
  · cases same
    obtain ⟨appState, decoded'⟩ := image.deserialize profile
    cases decoded.symm.trans decoded'
    refine ⟨rfl, ?_, ?_⟩
    · rw [network_goesOn transmitted, List.filter_append, network, silent_filter silent]
      rfl
    · intro other defragmenter now
      rw [collecting_goesOn collecting] at now
      split at now
      · cases now
      · rename_i different
        exact others other different defragmenter now
  · cases impossible

/-! ## Every step -/

variable [Fintype ι] [CongestionControl κ] [RtoCalculator ρ] {start cluster' : Cluster ι κ ρ}
  {client : SocketAddrV4} {past : List (Transition ι κ ρ)}

/-- A client gets a connection, and one only, where nothing of an earlier one is held, on its
way or stored. -/
structure Alone (transition : Transition ι κ ρ) : Prop where
  single : (opened transition).Nodup
  gone : ∀ client ∈ opened transition,
    transition.source.held client = 0 ∧ transition.source.Rests client

omit [DecidableEq ι] [CongestionControl κ] [RtoCalculator ρ] in
/-- A step gives a client no connection, or its only one. -/
theorem Alone.cases {transition : Transition ι κ ρ} (alone : Alone transition)
    (client : SocketAddrV4) : (opened transition).count client = 0 ∨
      ((opened transition).count client ≤ 1 ∧ transition.source.held client = 0 ∧
        transition.source.Rests client) := by
  by_cases gets : client ∈ opened transition
  · exact .inr ⟨List.nodup_iff_count_le_one.mp alone.single client, alone.gone client gets⟩
  · exact .inl (List.count_eq_zero.mpr gets)

/-- A control block is another one, rebuilt by a server. -/
def Rebuilt (profile : Profile) (cb origin : ControlBlock κ ρ) : Prop :=
  ∃ importer localAddr, ∀ application,
    origin.migrate profile application importer localAddr = .ok cb

/-- Every connection that has been imported is one that had left a server, rebuilt, and each
of them has been imported once at most, in the order in which they left. -/
def Matched (profile : Profile) (departed arrived : List (ControlBlock κ ρ)) : Prop :=
  ∃ imported, imported.Sublist departed ∧ List.Forall₂ (Rebuilt profile) arrived imported

namespace Matched

variable {departed arrived : List (ControlBlock κ ρ)} {origin cb : ControlBlock κ ρ}

/-- A connection that leaves need not be imported. -/
theorem leaves (matched : Matched profile departed arrived) (origin : ControlBlock κ ρ) :
    Matched profile (origin :: departed) arrived := by
  obtain ⟨imported, within, rebuilt⟩ := matched
  exact ⟨imported, within.cons origin, rebuilt⟩

/-- The connection that has left last is imported. -/
theorem imports (matched : Matched profile departed arrived) (rebuilt : Rebuilt profile cb origin) :
    Matched profile (origin :: departed) (cb :: arrived) := by
  obtain ⟨imported, within, earlier⟩ := matched
  exact ⟨origin :: imported, within.cons_cons origin, .cons rebuilt earlier⟩

/-- No more connections are imported than have left. -/
theorem length_le (matched : Matched profile departed arrived) :
    arrived.length ≤ departed.length := by
  obtain ⟨imported, within, rebuilt⟩ := matched
  rw [rebuilt.length_eq]
  exact within.length_le

end Matched

/-- What holds of one client after a run. -/
structure Owned (profile : Profile) (client : SocketAddrV4) (past : List (Transition ι κ ρ))
    (cluster : Cluster ι κ ρ) : Prop where
  counted : cluster.held client + (departures client past).length ≤
    (clients past).count client + (arrivals client past).length
  phase : (cluster.Rests client ∧ cluster.held client ≤ 1 ∧
      Matched profile (departures client past) (arrivals client past)) ∨
    (cluster.held client = 0 ∧ ∃ origin earlier, departures client past = origin :: earlier ∧
      cluster.Travels origin ∧ Matched profile earlier (arrivals client past))

/-- What the tables of every server keep. -/
def Sound (cluster : Cluster ι κ ρ) : Prop :=
  ∀ server, (cluster.servers server).tables.Described ∧ (cluster.servers server).tcpmig.Filed

omit [Fintype ι] in
/-- In an action some messages are gone, and at most one server has taken a step. A state
that one of its records has awaited is one of these messages. -/
theorem step_cases {action : ClusterAction ι} (kept : Kept cluster action)
    (advanced : step profile cluster action = .ok cluster') :
    (cluster.operation action = none ∧ cluster'.servers = cluster.servers ∧
      cluster'.network.Sublist cluster.network) ∨
    ∃ server operation inner network, cluster.operation action = some (server, operation) ∧
      (cluster.servers server).step profile operation = .ok inner ∧
      cluster' = cluster.goesOn server inner network ∧ network.Sublist cluster.network ∧
      ∀ ipHdr buf hdr data defragmenter, operation = .message ipHdr buf →
        TcpMigHeader.parse ipHdr buf = .ok (hdr, data) → hdr.stage = .connectionState →
        (cluster.servers server).tcpmig.collecting hdr.client = some defragmenter →
          ∃ index delivered, cluster.network[index]? = some delivered ∧
            network = cluster.network.eraseIdx index ∧ hdr = delivered.tcpmigHdr ∧
            data = delivered.data := by
  cases action with
  | acts server operation =>
    obtain ⟨inner, stepped, advanced⟩ := bind_ok.mp advanced
    cases advanced
    refine .inr ⟨server, operation, inner, cluster.network, rfl, stepped, rfl, .refl _, ?_⟩
    rintro ipHdr buf hdr data defragmenter rfl parsed stage collected
    have idle := kept _ rfl (hdr, data) (by rw [parsed]; rfl) stage
    cases idle.symm.trans collected
  | arrives server index =>
    unfold step at advanced
    unfold Cluster.operation
    dsimp only at advanced
    split at advanced
    · rename_i nothing
      cases advanced
      exact .inl ⟨congrArg (Option.map _) nothing, rfl, .refl _⟩
    · rename_i segment found
      obtain ⟨inner, stepped, advanced⟩ := bind_ok.mp advanced
      cases advanced
      refine .inr ⟨server, _, inner, _, congrArg (Option.map _) found, stepped, rfl,
        List.eraseIdx_sublist _ _, ?_⟩
      rintro ipHdr buf hdr data _ ⟨⟩ parsed - -
      cases segment.parse_own.symm.trans parsed
      exact ⟨index, segment, found, rfl, rfl, rfl⟩
  | loses index =>
    cases advanced
    exact .inl ⟨rfl, rfl, List.eraseIdx_sublist _ _⟩

omit [CongestionControl κ] [RtoCalculator ρ] in
/-- One server has changed. -/
theorem held_goesOn {network : List TcpMigSegment} (client : SocketAddrV4) :
    (cluster.goesOn server inner network).held client + (cluster.servers server).tables.held client =
      cluster.held client + inner.tables.held client := by
  have total (servers : ι → Inner κ ρ) : ∑ other, (servers other).tables.held client =
      (servers server).tables.held client +
        ∑ other ∈ Finset.univ.erase server, (servers other).tables.held client :=
    (Finset.add_sum_erase _ _ (Finset.mem_univ server)).symm
  have others : ∑ other ∈ Finset.univ.erase server,
      (Function.update cluster.servers server inner other).tables.held client =
        ∑ other ∈ Finset.univ.erase server, (cluster.servers other).tables.held client := by
    refine Finset.sum_congr rfl fun other member => ?_
    rw [Function.update_of_ne (Finset.ne_of_mem_erase member)]
  have after := total (Function.update cluster.servers server inner)
  rw [others, Function.update_self] at after
  have before := total cluster.servers
  unfold held goesOn
  dsimp only
  omega

omit [DecidableEq ι] [Fintype ι] [CongestionControl κ] [RtoCalculator ρ] in
/-- A client is counted once for each of its connections. -/
theorem count_remotes (connections : List (ControlBlock κ ρ)) (client : SocketAddrV4) :
    (connections.map ControlBlock.remote).count client =
      (connections.filter fun cb => cb.remote = client).length := by
  rw [List.count_eq_countP, List.countP_map, List.countP_eq_length_filter]
  rfl

omit [DecidableEq ι] [Fintype ι] [CongestionControl κ] [RtoCalculator ρ] in
/-- A connection is its client's. -/
theorem own_connection (cb : ControlBlock κ ρ) :
    ([cb].filter fun other => other.remote = cb.remote) = [cb] := by
  simp

omit [DecidableEq ι] [Fintype ι] [CongestionControl κ] [RtoCalculator ρ] in
/-- A connection is nobody else's. -/
theorem other_connection {cb : ControlBlock κ ρ} (other : client ≠ cb.remote) :
    ([cb].filter fun cb => cb.remote = client) = [] := by
  simp [other.symm]

omit [DecidableEq ι] [Fintype ι] [CongestionControl κ] [RtoCalculator ρ] in
/-- The first of the departures of a client has left with this client. -/
theorem remote_of_departed {earlier : List (ControlBlock κ ρ)}
    (head : departures client past = origin :: earlier) : origin.remote = client := by
  have first : origin ∈ departures client past := by
    rw [head]
    exact List.mem_cons_self
  obtain ⟨transition, -, member⟩ := List.mem_flatMap.mp first
  exact of_decide_eq_true (List.mem_filter.mp member).2

omit [DecidableEq ι] in
/-- No server takes a step. -/
theorem Owned.loses {action : ClusterAction ι} (owned : Owned profile client past cluster)
    (nobody : cluster.operation action = none) (servers : cluster'.servers = cluster.servers)
    (fewer : cluster'.network.Sublist cluster.network) :
    Owned profile client (⟨cluster, action, cluster'⟩ :: past) cluster' := by
  have calms (client : SocketAddrV4) : Calms client cluster cluster' :=
    ⟨fewer.filter _, fun server defragmenter found => .inl (servers ▸ found)⟩
  have left : departures client (⟨cluster, action, cluster'⟩ :: past) = departures client past := by
    simp only [departures, List.flatMap_cons, departed, nobody, List.filter_nil, List.nil_append]
  have came : arrivals client (⟨cluster, action, cluster'⟩ :: past) = arrivals client past := by
    simp only [arrivals, List.flatMap_cons, arrived, nobody, List.filter_nil, List.nil_append]
  have known : clients (⟨cluster, action, cluster'⟩ :: past) = clients past := by
    simp only [clients, List.flatMap_cons, opened, nobody, List.nil_append]
  have same : cluster'.held client = cluster.held client := by
    unfold held
    rw [servers]
  constructor
  · rw [left, came, known, same]
    exact owned.counted
  · rw [left, came, same]
    obtain ⟨rests, kept⟩ | ⟨nobody, origin, earlier, head, travels, matched⟩ := owned.phase
    · exact .inl ⟨rests.calms (calms client), kept⟩
    · exact .inr ⟨nobody, origin, earlier, head, travels.calms (calms _), matched⟩

/-- One server takes a step: what follows for the counts of a client. -/
structure Went (client : SocketAddrV4) (past : List (Transition ι κ ρ)) (cluster : Cluster ι κ ρ)
    (action : ClusterAction ι) (cluster' : Cluster ι κ ρ) (before after : ServerTables κ ρ)
    (operation : Operation) : Prop where
  left : departures client (⟨cluster, action, cluster'⟩ :: past) =
    ((before.departed after).filter fun cb => cb.remote = client) ++ departures client past
  came : arrivals client (⟨cluster, action, cluster'⟩ :: past) =
    ((before.arrived after operation).filter fun cb => cb.remote = client) ++ arrivals client past
  moved : cluster'.held client +
      ((before.departed after).filter fun cb => cb.remote = client).length ≤
    cluster.held client + (opened ⟨cluster, action, cluster'⟩).count client +
      ((before.arrived after operation).filter fun cb => cb.remote = client).length
  counted : cluster'.held client + (departures client (⟨cluster, action, cluster'⟩ :: past)).length ≤
    (clients (⟨cluster, action, cluster'⟩ :: past)).count client +
      (arrivals client (⟨cluster, action, cluster'⟩ :: past)).length

/-- A turn of a server lets the cluster go on as one of its members does: what the server does
is recorded and what it sends is added to the network. -/
theorem Owned.went {action : ClusterAction ι} {operation : Operation} {network : List TcpMigSegment}
    (owned : Owned profile client past cluster)
    (goes : cluster.operation action = some (server, operation))
    (described : (cluster.servers server).tables.Described)
    (stepped : (cluster.servers server).step profile operation = .ok inner) :
    Went client past cluster action (cluster.goesOn server inner network)
      (cluster.servers server).tables inner.tables operation := by
  have conserved : inner.tables.held client + _ ≤ _ :=
    ServerTables.conserves described (Inner.step_effect stepped)
  have same : (cluster.goesOn server inner network).servers server = inner :=
    Function.update_self _ _ _
  have left : departures client (⟨cluster, action, cluster.goesOn server inner network⟩ :: past) =
      (((cluster.servers server).tables.departed inner.tables).filter fun cb => cb.remote = client) ++
        departures client past := by
    simp only [departures, List.flatMap_cons, departed, goes, same]
  have came : arrivals client (⟨cluster, action, cluster.goesOn server inner network⟩ :: past) =
      (((cluster.servers server).tables.arrived inner.tables operation).filter fun cb =>
        cb.remote = client) ++ arrivals client past := by
    simp only [arrivals, List.flatMap_cons, arrived, goes, same]
  have gets : opened ⟨cluster, action, cluster.goesOn server inner network⟩ =
      (cluster.servers server).tables.opened inner.tables operation := by
    simp only [opened, goes, same]
  have total : (cluster.goesOn server inner network).held client + _ =
    cluster.held client + inner.tables.held client := held_goesOn client
  have counted := owned.counted
  rw [count_remotes, count_remotes] at conserved
  refine ⟨left, came, ?_, ?_⟩
  · rw [gets]
    omega
  · rw [left, came, clients, List.flatMap_cons, ← clients, gets, List.count_append,
      List.length_append, List.length_append]
    omega

omit [DecidableEq ι] in
/-- The imports of a client are matched by its exports, whether it travels or rests. -/
theorem Owned.matched (owned : Owned profile client past cluster) :
    Matched profile (departures client past) (arrivals client past) := by
  obtain ⟨-, -, matched⟩ | ⟨-, origin, earlier, head, -, matched⟩ := owned.phase
  · exact matched
  · rw [head]
    exact matched.leaves origin

omit [DecidableEq ι] in
/-- When a piece of a state is delivered, the connection travels. -/
theorem Owned.travelling {delivered : TcpMigSegment} (owned : Owned profile client past cluster)
    (found : cluster.network[index]? = some delivered) (carries : delivered.carries client = true) :
    cluster.held client = 0 ∧ ∃ origin earlier, departures client past = origin :: earlier ∧
      cluster.Travels origin ∧ Matched profile earlier (arrivals client past) := by
  obtain ⟨rests, -⟩ | travelling := owned.phase
  · exact absurd found (rests.not_delivered carries index)
  · exact travelling

omit [DecidableEq ι] [CongestionControl κ] [RtoCalculator ρ] in
/-- When a piece of a state is delivered, its client gets no connection. -/
theorem Alone.none_delivered {action : ClusterAction ι} {delivered : TcpMigSegment}
    (alone : Alone ⟨cluster, action, cluster'⟩) (found : cluster.network[index]? = some delivered)
    (carries : delivered.carries client = true) :
    (opened ⟨cluster, action, cluster'⟩).count client = 0 := by
  obtain none_ | ⟨-, -, rests⟩ := alone.cases client
  · exact none_
  · exact absurd found (rests.not_delivered carries index)

omit [DecidableEq ι] in
/-- Nothing of a client leaves or arrives, and no state of it moves. -/
theorem Owned.calm {action : ClusterAction ι} {operation : Operation}
    {before after : ServerTables κ ρ} (owned : Owned profile client past cluster)
    (went : Went client past cluster action cluster' before after operation)
    (alone : Alone ⟨cluster, action, cluster'⟩)
    (departed : ((before.departed after).filter fun cb => cb.remote = client) = [])
    (arrived : ((before.arrived after operation).filter fun cb => cb.remote = client) = [])
    (calms : Calms client cluster cluster') :
    Owned profile client (⟨cluster, action, cluster'⟩ :: past) cluster' := by
  have left := went.left
  have came := went.came
  have moved := went.moved
  rw [departed, List.nil_append] at left
  rw [arrived, List.nil_append] at came
  rw [departed, arrived, List.length_nil] at moved
  refine ⟨went.counted, ?_⟩
  rw [left, came]
  obtain none_ | ⟨one, nobody, rests⟩ := alone.cases client
  · obtain ⟨rests, single, matched⟩ | ⟨nobody, origin, earlier, head, travels, matched⟩ := owned.phase
    · exact .inl ⟨rests.calms calms, by omega, matched⟩
    · refine .inr ⟨by omega, origin, earlier, head, travels.calms ?_, matched⟩
      rw [remote_of_departed head]
      exact calms
  · change cluster.held client = 0 at nobody
    exact .inl ⟨rests.calms calms, by omega, owned.matched⟩

/-! ### One server takes a step, by outcome -/

section Outcomes

variable {action : ClusterAction ι} {operation : Operation} {network : List TcpMigSegment}

/-- What has arrived at a server is what has left a server last, rebuilt here. -/
def Rebuilds (profile : Profile) (past : List (Transition ι κ ρ)) (here : Inner κ ρ)
    (arrived : List (ControlBlock κ ρ)) : Prop :=
  ∀ cb ∈ arrived, ∃ origin port, (departures cb.remote past).head? = some origin ∧
    ∀ application, origin.migrate profile application here.importer
      ⟨here.tcpmig.localIpv4Addr, port⟩ = .ok cb

/-- A step of the server, as each client counts it. -/
abbrev AllWent (past : List (Transition ι κ ρ)) (cluster : Cluster ι κ ρ) (action : ClusterAction ι)
    (server : ι) (inner : Inner κ ρ) (operation : Operation) (network : List TcpMigSegment) : Prop :=
  ∀ client, Went client past cluster action (cluster.goesOn server inner network)
    (cluster.servers server).tables inner.tables operation

/-- No state is sent or read. -/
theorem Owned.quiets (owned : ∀ client, Owned profile client past cluster)
    (went : AllWent past cluster action server inner operation network)
    (alone : Alone ⟨cluster, action, cluster.goesOn server inner network⟩)
    (fewer : network.Sublist cluster.network)
    (peers : (cluster.servers server).tcpmig.Quiet inner.tcpmig)
    (departed : (cluster.servers server).tables.departed inner.tables = [])
    (arrived : (cluster.servers server).tables.arrived inner.tables operation = [])
    (client : SocketAddrV4) :
    Owned profile client (⟨cluster, action, cluster.goesOn server inner network⟩ :: past)
      (cluster.goesOn server inner network) := by
  obtain ⟨sent, transmitted, silent⟩ := peers.transmitted
  refine (owned client).calm (went client) alone (by rw [departed]; rfl) (by rw [arrived]; rfl) ?_
  exact .of_goesOn client fewer transmitted (silent_filter silent client) (peers.collecting client)

/-- A connection leaves, and its state is on its way. It has been the only connection of its
client, so nothing of this client was on its way before. -/
theorem Owned.exports (owned : ∀ client, Owned profile client past cluster)
    (went : AllWent past cluster action server inner operation network)
    (alone : Alone ⟨cluster, action, cluster.goesOn server inner network⟩)
    (fewer : network.Sublist cluster.network)
    {cb : ControlBlock κ ρ} {segment : TcpMigSegment} {pieces : List Buffer}
    {calm sent : List TcpMigSegment}
    (departed : (cluster.servers server).tables.departed inner.tables = [cb])
    (arrived : (cluster.servers server).tables.arrived inner.tables operation = [])
    (exportable : cb.Exportable) (image : TcpState.Image cb.exported pieces.flatten)
    (fragmented : Fragmented segment pieces sent) (about : segment.tcpmigHdr.client = cb.remote)
    (stage : segment.tcpmigHdr.stage = .connectionState)
    (collecting : ∀ client defragmenter, inner.tcpmig.collecting client = some defragmenter →
      (cluster.servers server).tcpmig.collecting client = some defragmenter ∨ defragmenter = .new)
    (silent : ∀ segment ∈ calm, segment.tcpmigHdr.stage ≠ .connectionState)
    (transmitted : inner.tcpmig.transmitted =
      (cluster.servers server).tcpmig.transmitted ++ calm ++ sent) (client : SocketAddrV4) :
    Owned profile client (⟨cluster, action, cluster.goesOn server inner network⟩ :: past)
      (cluster.goesOn server inner network) := by
  by_cases own : client = cb.remote
  · subst own
    have left := (went cb.remote).left
    have came := (went cb.remote).came
    have moved := (went cb.remote).moved
    rw [departed, own_connection] at left moved
    rw [arrived, List.filter_nil, List.nil_append] at came
    rw [arrived, List.filter_nil, List.length_nil, List.length_singleton] at moved
    -- the connection was held, or is new, and in both cases nothing of it was on its way
    have rests : cluster.Rests cb.remote ∧
        cluster.held cb.remote + (opened ⟨cluster, action, cluster.goesOn server inner network⟩).count
          cb.remote ≤ 1 := by
      obtain none_ | ⟨one, nobody, rests⟩ := alone.cases cb.remote
      · obtain ⟨rests, single⟩ | ⟨nobody, -⟩ := (owned cb.remote).phase
        · exact ⟨rests, by omega⟩
        · omega
      · change cluster.held cb.remote = 0 at nobody
        exact ⟨rests, by omega⟩
    refine ⟨(went cb.remote).counted, .inr ⟨by omega, cb, departures cb.remote past, left, ?_, ?_⟩⟩
    · exact rests.1.exports fewer exportable image fragmented about stage collecting silent
        transmitted
    · rw [came]
      exact (owned cb.remote).matched
  · refine (owned client).calm (went client) alone ?_ (by rw [arrived]; rfl) ?_
    · rw [departed, other_connection own]
    · rw [List.append_assoc] at transmitted
      refine .of_goesOn client fewer transmitted ?_ (collecting client)
      rw [List.filter_append, silent_filter silent, List.nil_append, List.filter_eq_nil_iff]
      intro fragment member carries
      obtain ⟨-, about', -⟩ := of_decide_eq_true carries
      exact own (about'.symm.trans ((fragmented.header member).2.trans about))

/-- A fragment of a state is read, and more are to come. -/
theorem Owned.gathers (owned : ∀ client, Owned profile client past cluster)
    (went : AllWent past cluster action server inner operation network)
    (alone : Alone ⟨cluster, action, cluster.goesOn server inner network⟩)
    {index : Nat} {delivered : TcpMigSegment} (found : cluster.network[index]? = some delivered)
    (taken : network = cluster.network.eraseIdx index)
    {defragmenter further : TcpMigDefragmenter}
    (stage : delivered.tcpmigHdr.stage = .connectionState)
    (collected : (cluster.servers server).tcpmig.collecting delivered.tcpmigHdr.client =
      some defragmenter)
    (gathered : defragmenter.defragment profile delivered.tcpmigHdr delivered.data =
      .ok (further, none))
    (collecting : ∀ client, inner.tcpmig.collecting client =
      if client = delivered.tcpmigHdr.client then some further
      else (cluster.servers server).tcpmig.collecting client)
    (transmitted : inner.tcpmig.transmitted = (cluster.servers server).tcpmig.transmitted)
    (departed : (cluster.servers server).tables.departed inner.tables = [])
    (arrived : (cluster.servers server).tables.arrived inner.tables operation = [])
    (client : SocketAddrV4) :
    Owned profile client (⟨cluster, action, cluster.goesOn server inner network⟩ :: past)
      (cluster.goesOn server inner network) := by
  subst taken
  have carries := carries_of_gathered stage gathered (fun _ _ same => by cases same)
  by_cases own : client = delivered.tcpmigHdr.client
  · subst own
    have left := (went delivered.tcpmigHdr.client).left
    have came := (went delivered.tcpmigHdr.client).came
    have moved := (went delivered.tcpmigHdr.client).moved
    rw [departed, List.filter_nil, List.nil_append] at left
    rw [arrived, List.filter_nil, List.nil_append] at came
    rw [departed, arrived, List.filter_nil, List.length_nil] at moved
    obtain ⟨nobody, origin, earlier, head, travels, matched⟩ := (owned _).travelling found carries
    have none_ := alone.none_delivered found carries
    refine ⟨(went _).counted, ?_⟩
    rw [left, came]
    have about := remote_of_departed head
    have stores := collecting delivered.tcpmigHdr.client
    rw [if_pos rfl] at stores
    exact .inr ⟨by omega, origin, earlier, head, travels.gathers found stage about.symm
      (about ▸ collected) gathered (about ▸ stores) transmitted, matched⟩
  · refine (owned client).calm (went client) alone (by rw [departed]; rfl) (by rw [arrived]; rfl) ?_
    refine .of_goesOn client (List.eraseIdx_sublist _ _)
      (transmitted.trans (List.append_nil _).symm) rfl ?_
    intro defragmenter found
    have still := collecting client
    rw [if_neg own] at still
    exact .inl (still.symm.trans found)

/-- The last fragment of a state is read. The state is the one that has left last. -/
theorem Owned.imports (owned : ∀ client, Owned profile client past cluster)
    (went : AllWent past cluster action server inner operation network)
    (alone : Alone ⟨cluster, action, cluster.goesOn server inner network⟩)
    {index : Nat} {delivered : TcpMigSegment} (found : cluster.network[index]? = some delivered)
    (taken : network = cluster.network.eraseIdx index)
    {defragmenter further : TcpMigDefragmenter} {whole : TcpMigHeader} {bytes : Buffer}
    {read : TcpState} (stage : delivered.tcpmigHdr.stage = .connectionState)
    (collected : (cluster.servers server).tcpmig.collecting delivered.tcpmigHdr.client =
      some defragmenter)
    (gathered : defragmenter.defragment profile delivered.tcpmigHdr delivered.data =
      .ok (further, some (whole, bytes)))
    (decoded : TcpState.deserialize profile bytes = .ok read)
    (collecting : ∀ client, inner.tcpmig.collecting client =
      if client = delivered.tcpmigHdr.client then none
      else (cluster.servers server).tcpmig.collecting client)
    (transmitted : ∃ sent, inner.tcpmig.transmitted =
        (cluster.servers server).tcpmig.transmitted ++ sent ∧
      ∀ segment ∈ sent, segment.tcpmigHdr.stage ≠ .connectionState)
    (departed : (cluster.servers server).tables.departed inner.tables = [])
    (arrived : (cluster.servers server).tables.arrived inner.tables operation = [] ∨
      ∃ port, (cluster.servers server).tables.arrived inner.tables operation =
        [.fromState (cluster.servers server).importer
          (read.cb.setLocal ⟨(cluster.servers server).tcpmig.localIpv4Addr, port⟩)]) :
    (∀ client, Owned profile client (⟨cluster, action, cluster.goesOn server inner network⟩ :: past)
      (cluster.goesOn server inner network)) ∧
    Rebuilds profile past (cluster.servers server)
      ((cluster.servers server).tables.arrived inner.tables operation) := by
  subst taken
  obtain ⟨sent, transmitted, silent⟩ := transmitted
  have carries := carries_of_gathered stage gathered (by
    rintro _ _ ⟨⟩ rfl
    exact TcpState.deserialize_nil profile read decoded)
  have arrives := collecting delivered.tcpmigHdr.client
  rw [if_pos rfl] at arrives
  obtain ⟨nobody, origin, earlier, head, travels, matched⟩ := (owned _).travelling found carries
  have none_ := alone.none_delivered found carries
  have about := remote_of_departed head
  obtain ⟨same, rests⟩ := travels.imports found stage about.symm (about ▸ collected) gathered
    decoded (about ▸ arrives) transmitted silent
  have remotes (cb : ControlBlock κ ρ)
      (member : cb ∈ (cluster.servers server).tables.arrived inner.tables operation) :
      cb.remote = delivered.tcpmigHdr.client ∧ ∃ port, ∀ application,
        origin.migrate profile application (cluster.servers server).importer
          ⟨(cluster.servers server).tcpmig.localIpv4Addr, port⟩ = .ok cb := by
    obtain none_ | ⟨port, one⟩ := arrived
    · rw [none_] at member
      cases member
    · rw [one, List.mem_singleton, same] at member
      subst member
      exact ⟨about, port, fun application => ControlBlock.migrate_ok.mpr ⟨travels.1, rfl⟩⟩
  refine ⟨fun client => ?_, fun cb member => ?_⟩
  · by_cases own : client = delivered.tcpmigHdr.client
    · subst own
      have left := (went delivered.tcpmigHdr.client).left
      have came := (went delivered.tcpmigHdr.client).came
      have moved := (went delivered.tcpmigHdr.client).moved
      rw [departed, List.filter_nil, List.nil_append] at left
      rw [departed, List.filter_nil, List.length_nil] at moved
      refine ⟨(went _).counted, .inl ⟨about ▸ rests, ?_⟩⟩
      rw [left, came, head]
      obtain nothing | ⟨port, one⟩ := arrived
      · rw [nothing] at moved ⊢
        rw [List.filter_nil, List.length_nil] at moved
        exact ⟨by omega, matched.leaves origin⟩
      · obtain ⟨own, port', migrates⟩ := remotes _ (one ▸ List.mem_singleton_self _)
        have single := own ▸ own_connection (ControlBlock.fromState _ _)
        rw [one, single] at moved ⊢
        rw [List.length_singleton] at moved
        exact ⟨by omega, matched.imports ⟨_, _, migrates⟩⟩
    · refine (owned client).calm (went client) alone (by rw [departed]; rfl) ?_ ?_
      · refine List.filter_eq_nil_iff.mpr fun cb member of => own ?_
        exact (of_decide_eq_true of).symm.trans (remotes cb member).1
      · refine .of_goesOn client (List.eraseIdx_sublist _ _) transmitted
          (silent_filter silent client) ?_
        intro defragmenter found
        have still := collecting client
        rw [if_neg own] at still
        exact .inl (still.symm.trans found)
  · obtain ⟨remote, port, migrates⟩ := remotes cb member
    exact ⟨origin, port, by rw [remote, head]; rfl, migrates⟩

/-- What is known of a cluster after a step of a server that keeps its tables sound. -/
theorem Owned.goesOn (owned : ∀ client, Owned profile client past cluster)
    (goes : cluster.operation action = some (server, operation))
    (described : (cluster.servers server).tables.Described)
    (filed : (cluster.servers server).tcpmig.Filed)
    (stepped : (cluster.servers server).step profile operation = .ok inner)
    (fewer : network.Sublist cluster.network)
    (states : ∀ ipHdr buf hdr data defragmenter, operation = .message ipHdr buf →
      TcpMigHeader.parse ipHdr buf = .ok (hdr, data) → hdr.stage = .connectionState →
      (cluster.servers server).tcpmig.collecting hdr.client = some defragmenter →
        ∃ index delivered, cluster.network[index]? = some delivered ∧
          network = cluster.network.eraseIdx index ∧ hdr = delivered.tcpmigHdr ∧
          data = delivered.data)
    (alone : Alone ⟨cluster, action, cluster.goesOn server inner network⟩) :
    (∀ client, Owned profile client (⟨cluster, action, cluster.goesOn server inner network⟩ :: past)
      (cluster.goesOn server inner network)) ∧
    Rebuilds profile past (cluster.servers server)
      ((cluster.servers server).tables.arrived inner.tables operation) := by
  have went : AllWent past cluster action server inner operation network :=
    fun client => (owned client).went goes described stepped
  have nothing (arrived : (cluster.servers server).tables.arrived inner.tables operation = []) :
      Rebuilds profile past (cluster.servers server)
        ((cluster.servers server).tables.arrived inner.tables operation) := by
    rw [arrived]
    exact fun _ member => by cases member
  have turn : Turn profile (cluster.servers server).tables inner.tables operation :=
    (Inner.step_effect stepped).turn described filed
  cases turn with
  | quiet peers departed arrived =>
    exact ⟨Owned.quiets owned went alone fewer peers departed arrived, nothing arrived⟩
  | exports departed arrived exportable image fragmented about stage collecting silent
      transmitted =>
    exact ⟨Owned.exports owned went alone fewer departed arrived exportable image fragmented about
      stage collecting silent transmitted, nothing arrived⟩
  | gathers message parsed stage collected gathered collecting transmitted departed arrived =>
    obtain ⟨index, delivered, found, taken, rfl, rfl⟩ :=
      states _ _ _ _ _ message parsed stage collected
    exact ⟨Owned.gathers owned went alone found taken stage collected gathered collecting transmitted
      departed arrived, nothing arrived⟩
  | imports message parsed stage collected gathered decoded collecting transmitted departed
      arrived =>
    obtain ⟨index, delivered, found, taken, rfl, rfl⟩ :=
      states _ _ _ _ _ message parsed stage collected
    exact Owned.imports owned went alone found taken stage collected gathered decoded collecting
      transmitted departed arrived

end Outcomes

omit [DecidableEq ι] [Fintype ι] in
/-- The tables of a server that goes on stay sound. -/
theorem Sound.step {operation : Operation}
    (sound : (cluster.servers server).tables.Described ∧ (cluster.servers server).tcpmig.Filed)
    (stepped : (cluster.servers server).step profile operation = .ok inner) :
    inner.tables.Described ∧ inner.tcpmig.Filed :=
  ⟨sound.1.step (Inner.step_effect stepped), sound.2.step (Inner.step_effect stepped)⟩

omit [DecidableEq ι] in
/-- Servers that have not been used hold nothing. -/
theorem new_owned (ports : ι → EphemeralPorts) (addresses : ι → MacAddress × Ipv4Addr)
    (tcpConfig : ι → TcpConfig) (client : SocketAddrV4) :
    Owned profile client [] (new ports addresses tcpConfig : Cluster ι κ ρ) := by
  have nothing : (new ports addresses tcpConfig : Cluster ι κ ρ).held client = 0 :=
    Finset.sum_eq_zero fun _ _ => rfl
  refine ⟨?_, .inl ⟨⟨rfl, fun _ _ found => by cases found⟩, ?_, [], .slnil, .nil⟩⟩
  · rw [nothing]
    exact Nat.le_refl _
  · rw [nothing]
    exact Nat.zero_le _

omit [DecidableEq ι] in
/-- A client with one connection has it at one server, or it has left one server more often
than it has been imported, and nobody has it. -/
theorem Owned.close (owned : Owned profile client past cluster) (once : (clients past).Nodup) :
    cluster.held client ≤ 1 ∧ (arrivals client past).length ≤ (departures client past).length ∧
      (departures client past).length ≤ (arrivals client past).length + 1 ∧
      ((arrivals client past).length < (departures client past).length →
        cluster.held client = 0) := by
  have single := List.nodup_iff_count_le_one.mp once client
  have counted := owned.counted
  have ordered := owned.matched.length_le
  omega

/-- What is imported is what has left its server last. The server that goes on has rebuilt it,
with its own address and its own configuration. -/
def Imports (profile : Profile) (earlier : List (Transition ι κ ρ))
    (transition : Transition ι κ ρ) : Prop :=
  ∀ cb ∈ arrived transition, ∃ origin server operation port,
    (departures cb.remote earlier).head? = some origin ∧
      transition.source.operation transition.action = some (server, operation) ∧
      ∀ application, origin.migrate profile application (transition.source.servers server).importer
        ⟨(transition.source.servers server).tcpmig.localIpv4Addr, port⟩ = .ok cb

/-- What holds of every client after every run from servers that have not been used. -/
theorem run_owned {ports : ι → EphemeralPorts} {addresses : ι → MacAddress × Ipv4Addr}
    {tcpConfig : ι → TcpConfig} (run : Run profile (new ports addresses tcpConfig) past cluster)
    (kept : Runs.Meets Kept past) (alone : ∀ transition ∈ past, Alone transition) :
    cluster.Sound ∧ (∀ client, Owned profile client past cluster) ∧
      ∀ transition earlier, transition :: earlier <:+ past → Imports profile earlier transition := by
  refine Runs.run_invariant (fun past cluster => (∀ transition ∈ past, Alone transition) →
    cluster.Sound ∧ (∀ client, Owned profile client past cluster) ∧
      ∀ transition earlier, transition :: earlier <:+ past → Imports profile earlier transition)
    ?_ ?_ run kept alone
  · intro _
    refine ⟨fun server => ⟨fun key known => ?_, fun client active found => by cases found⟩,
      new_owned ports addresses tcpConfig, fun transition earlier later => ?_⟩
    · exact absurd known (AList.notMem_empty key)
    · cases List.suffix_nil.mp later
  · intro past cluster action cluster' _ kept invariant advanced alone
    obtain ⟨here, before⟩ := List.forall_mem_cons.mp alone
    obtain ⟨sound, owned, imports⟩ := invariant before
    -- an import of the past, or the one of this step
    have followed (now : Imports profile past ⟨cluster, action, cluster'⟩) :
        ∀ transition earlier, transition :: earlier <:+ ⟨cluster, action, cluster'⟩ :: past →
          Imports profile earlier transition := by
      intro transition earlier later
      obtain same | later := List.suffix_cons_iff.mp later
      · cases same
        exact now
      · exact imports transition earlier later
    obtain ⟨nobody, servers, fewer⟩ | ⟨server, operation, inner, network, goes, stepped, rfl, fewer,
      states⟩ := step_cases kept advanced
    · refine ⟨fun server => ?_, fun client => (owned client).loses nobody servers fewer,
        followed fun cb member => ?_⟩
      · rw [servers]
        exact sound server
      · unfold arrived at member
        rw [nobody] at member
        cases member
    · have self : (cluster.goesOn server inner network).servers server = inner :=
        Function.update_self _ _ _
      obtain ⟨described, filed⟩ := sound server
      obtain ⟨owned', now⟩ := Owned.goesOn owned goes described filed stepped fewer states here
      refine ⟨fun other => ?_, owned', followed fun cb member => ?_⟩
      · by_cases same : other = server
        · rw [same, self]
          exact Sound.step (sound server) stepped
        · have still : (cluster.goesOn server inner network).servers other = cluster.servers other :=
            Function.update_of_ne same _ _
          rw [still]
          exact sound other
      · have came : arrived ⟨cluster, action, cluster.goesOn server inner network⟩ =
            (cluster.servers server).tables.arrived inner.tables operation := by
          simp only [arrived, goes, self]
        obtain ⟨origin, port, head, migrates⟩ := now cb (came ▸ member)
        exact ⟨origin, server, operation, port, head, goes, migrates⟩

/-- A client that gets one connection in the whole run gets it alone. -/
theorem alone_of_once {ports : ι → EphemeralPorts} {addresses : ι → MacAddress × Ipv4Addr}
    {tcpConfig : ι → TcpConfig} (run : Run profile (new ports addresses tcpConfig) past cluster)
    (kept : Runs.Meets Kept past) (once : (clients past).Nodup) :
    ∀ transition ∈ past, Alone transition := by
  induction run with
  | nil => exact fun _ member => by cases member
  | @step past source target action earlier advanced inductionHypothesis =>
    obtain ⟨-, before⟩ := (Runs.meets_cons _ _ _).mp kept
    rw [clients, List.flatMap_cons, ← clients] at once
    obtain ⟨single, once, apart⟩ := List.nodup_append.mp once
    have alone := inductionHypothesis before once
    refine List.forall_mem_cons.mpr ⟨⟨single, fun client gets => ?_⟩, alone⟩
    obtain ⟨-, owned, -⟩ := run_owned earlier before alone
    have first : (clients past).count client = 0 :=
      List.count_eq_zero.mpr fun again => apart client gets client again rfl
    have counted := (owned client).counted
    obtain ⟨rests, -, matched⟩ | ⟨-, origin, earlier, head, -, matched⟩ := (owned client).phase
    · have ordered := matched.length_le
      exact ⟨show source.held client = 0 by omega, rests⟩
    · have ordered := matched.length_le
      rw [head, List.length_cons] at counted
      omega

/-- Single ownership. Each client opens one connection; no state is delivered twice to records
that await one, whatever happens to other messages. Then at most one server has the
connection of a client, and none has it after it has left one and before its state has been
imported. What is imported is what has left last, rebuilt by the importing server.

Proof: for each client the number of servers that hold its connection and the number of
states on the way add up to at most the number of its openings. Every operation of a
server moves one from the first to the second, every delivered state back, and nothing
else changes either. -/
theorem single_owner {ports : ι → EphemeralPorts} {addresses : ι → MacAddress × Ipv4Addr}
    {tcpConfig : ι → TcpConfig} (run : Run profile (new ports addresses tcpConfig) past cluster)
    (kept : Runs.Meets Kept past) (once : (clients past).Nodup) :
    (∀ client, cluster.held client ≤ 1 ∧
      (arrivals client past).length ≤ (departures client past).length ∧
      (departures client past).length ≤ (arrivals client past).length + 1 ∧
      ((arrivals client past).length < (departures client past).length →
        cluster.held client = 0)) ∧
    ∀ transition earlier, transition :: earlier <:+ past → Imports profile earlier transition := by
  obtain ⟨-, owned, imports⟩ := run_owned run kept (alone_of_once run kept once)
  exact ⟨fun client => (owned client).close once, imports⟩

/-! ## Two servers to evaluate -/

/-- The servers 10.0.0.1 and 10.0.0.3. -/
def samplePair : Bool → MacAddress × Ipv4Addr
  | false => (3#48, 0x0a000001#32)
  | true => (4#48, 0x0a000003#32)

/-- The client connects to 10.0.0.1, and the connection moves to 10.0.0.3. -/
def sampleMove : List (ClusterAction Bool) :=
  (listenOperations 1 80 ++ handshakeOperations 80 ++
    [Operation.accept (.sample 0) 1 3 0]).map (.acts false) ++
  [.acts true (.socket 1), .acts true (.bind 1 ⟨0x0a000003#32, 80⟩), .acts true (.listen 1 5),
    .acts false (.migrateByQd 3), .arrives true 0, .arrives false 0, .arrives true 0,
    .acts true (.accept (.sample 0) 1 3 0)]

/-- Actions of the sample, from the start. -/
def executePair (actions : List (ClusterAction Bool)) :
    Checked (List (Transition Bool NoCongestionControl IntegerRto) ×
      Cluster Bool NoCongestionControl IntegerRto) :=
  Runs.execute (step .dev) ([], .new (fun _ => ⟨[50000]⟩) samplePair fun _ => .sample) actions

/-- The connection of the client is at one server, after it has moved there. -/
theorem single_owner_moved :
    ∃ (past : List (Transition Bool NoCongestionControl IntegerRto))
      (cluster : Cluster Bool NoCongestionControl IntegerRto),
      executePair sampleMove = .ok (past, cluster) ∧ cluster.held .sampleClient ≤ 1 ∧
      (departures .sampleClient past).length = 1 ∧ (arrivals .sampleClient past).length = 1 ∧
      ∀ transition earlier, transition :: earlier <:+ past →
        Imports .dev earlier transition := by
  have computed : (match executePair sampleMove with
      | .ok (past, _) => decide ((clients past).Nodup ∧
          (departures .sampleClient past).length = 1 ∧ (arrivals .sampleClient past).length = 1)
      | .error _ => false) = true := by decide +kernel
  cases executed : executePair sampleMove with
  | error stop =>
    rw [executed] at computed
    cases computed
  | ok reached =>
    obtain ⟨past, cluster⟩ := reached
    rw [executed] at computed
    obtain ⟨once, departed, arrived⟩ := of_decide_eq_true computed
    have kept : Runs.Meets Kept past := by
      refine Runs.meets_of_execute sampleMove (Runs.meets_nil _) ?_ executed
      simp [sampleMove, listenOperations, handshakeOperations, Kept, strays]
    obtain ⟨owned, imports⟩ := single_owner (Runs.run_of_execute .nil executed) kept once
    exact ⟨past, cluster, rfl, (owned .sampleClient).1, departed, arrived, imports⟩

end Cluster

end Capybara
