import Capybara.TcpMig.Collecting
import Capybara.TcpMig.Datagram
import Capybara.TcpMig.Receipts

/-!
# The transfer of a state

The origin sends a state in fragments, which reach the target in any order. While
they do, the record of the target has stored some of them and the others are still to
arrive; together they are the bytes of the state. The fragment that completes them
makes the target report the state and keep the application state that came with it.
-/

namespace Capybara

open Tables Chunks TcpMigDefragmenter

/-- The message that a record sends. -/
def ActiveMigration.message (active : ActiveMigration) (tcpmigHdr : TcpMigHeader) (buf : Buffer) :
    TcpMigSegment where
  dstLinkAddr := active.remoteLinkAddr
  srcLinkAddr := active.localLinkAddr
  ipv4Hdr := ⟨active.localIpv4Addr, active.remoteIpv4Addr⟩
  tcpmigHdr
  data := buf

/-- The fragments of a message: its pieces, and behind them at most fragments that carry
nothing. -/
structure Fragmented (segment : TcpMigSegment) (pieces : List Buffer) (sent : List TcpMigSegment) :
    Prop where
  few : pieces.length ≤ 2 ^ 16
  filled : 1 < pieces.length → pieces.flatten ≠ []
  piece : ∀ index < pieces.length, sent[index]? = some (piece segment pieces index)
  extra : ∀ index fragment, pieces.length ≤ index → sent[index]? = some fragment →
    fragment.data = [] ∧ fragment.tcpmigHdr = joinedHeader segment

/-- What a record sends are the fragments of its message. -/
theorem ActiveMigration.send_fragmented {profile : Profile} {active : ActiveMigration}
    {tcpmigHdr : TcpMigHeader} {buf : Buffer} {sent : List TcpMigSegment}
    (sends : active.send profile tcpmigHdr buf = .ok sent) :
    ∃ pieces, pieces.flatten = buf ∧ Fragmented (active.message tcpmigHdr buf) pieces sent := by
  unfold send at sends
  split at sends
  · cases sends
  rename_i small
  have few : (chunks MAX_FRAGMENT_SIZE buf).length ≤ 2 ^ 16 := by
    refine chunks_length_le (by decide) ?_
    have positive : 0 < MAX_FRAGMENT_SIZE := by decide
    have bound := Nat.div_add_mod buf.length MAX_FRAGMENT_SIZE
    have rest := Nat.mod_lt buf.length positive
    have most := Nat.mul_le_mul_left MAX_FRAGMENT_SIZE (Nat.le_of_not_gt small)
    omega
  obtain ⟨extra, shape, nothing⟩ := TcpMigFragmenter.collect_ok profile
    (active.message tcpmigHdr buf) (.inr rfl) (by rw [Nat.zero_add]; exact few) sends
  have whole : (chunks MAX_FRAGMENT_SIZE buf).flatten = buf := chunks_flatten _ _
  rw [Nat.zero_add] at shape
  change sent = (chunks MAX_FRAGMENT_SIZE buf).zipIdx.map ((active.message tcpmigHdr buf).fragment
    (chunks MAX_FRAGMENT_SIZE buf).length) ++ extra at shape
  rw [TcpMigSegment.zipIdx_map_fragment] at shape
  refine ⟨chunks MAX_FRAGMENT_SIZE buf, whole, few, ?_, ?_, ?_⟩
  · intro several empty
    rw [whole] at empty
    rw [empty, chunks_short (Nat.zero_le _)] at several
    exact Nat.lt_irrefl _ several
  · intro index inside
    rw [shape, List.getElem?_append_left (by simpa using inside), List.getElem?_map,
      List.getElem?_range inside]
    rfl
  · intro index fragment behind found
    rw [shape, List.getElem?_append_right (by simpa using behind)] at found
    exact nothing fragment (List.mem_of_getElem? found)

/-- A state is on its way to a target: `read` is what the target will read. -/
structure Transfer (profile : Profile) (client : SocketAddrV4) (read : TcpState)
    (segment : TcpMigSegment) (pieces : List Buffer) (sent : List TcpMigSegment)
    (arrived : Finset Nat) (target : TcpMigPeer) : Prop where
  fragmented : Fragmented segment pieces sent
  addressed : segment.tcpmigHdr.client = client
  stage : segment.tcpmigHdr.stage = .connectionState
  decoded : TcpState.deserialize profile pieces.flatten = .ok read
  recorded : ∃ active, target.activeMigrations.lookup client = some active ∧
    active.lastSentStage = .prepareMigrationAck ∧ Collects pieces arrived active.defragmenter

variable {profile : Profile} {client : SocketAddrV4} {read : TcpState} {segment : TcpMigSegment}
  {pieces : List Buffer} {sent : List TcpMigSegment} {arrived : Finset Nat}
  {target target' : TcpMigPeer}

/-- No state is empty. -/
theorem TcpState.deserialize_nil (profile : Profile) (state : TcpState) :
    TcpState.deserialize profile [] ≠ .ok state := by
  intro read
  cases read

/-- A message with a state is given to the defragmenter of a record that has prepared. -/
theorem TcpMigPeer.receiveMessage_state {active : ActiveMigration} {hdr : TcpMigHeader}
    {buf : Buffer} {status : Except Fail TcpmigReceiveStatus}
    (recorded : target.activeMigrations.lookup hdr.client = some active)
    (prepared : active.lastSentStage = .prepareMigrationAck) (stage : hdr.stage = .connectionState)
    (received : target.receiveMessage profile hdr buf = .ok (target', status)) :
    ∃ defragmenter whole, active.defragmenter.defragment profile hdr buf = .ok (defragmenter, whole) ∧
      match whole with
      | none => status = .ok .ok ∧ target' = { target with
          activeMigrations := target.activeMigrations.insert hdr.client { active with defragmenter }
          transmitted := target.transmitted ++ [] }
      | some (_, bytes) => ∃ state, TcpState.deserialize profile bytes = .ok state ∧
          (∃ state', status = .ok (.stateReceived state')) ∧
          target'.applicationState = match state.appState with
            | .migratedIn buffer =>
              target.applicationState.insert state.cb.remote (.migratedIn buffer)
            | _ => target.applicationState := by
  have heartbeat : hdr.stage ≠ .heartbeatResponse := by simp [stage]
  have preparing : hdr.stage ≠ .prepareMigration := by simp [stage]
  unfold receiveMessage at received
  rw [if_neg heartbeat, if_neg preparing] at received
  unfold dispatch at received
  rw [recorded] at received
  obtain ⟨⟨active', sent, report⟩, processed, concluded⟩ := bind_ok.mp received
  unfold ActiveMigration.processPacket at processed
  rw [prepared] at processed
  dsimp only at processed
  unfold ActiveMigration.processPrepared at processed
  rw [stage] at processed
  obtain ⟨⟨defragmenter, whole⟩, gathered, processed⟩ := bind_ok.mp processed
  refine ⟨defragmenter, whole, gathered, ?_⟩
  cases whole with
  | none =>
    cases processed
    cases concluded
    exact ⟨rfl, rfl⟩
  | some whole =>
    obtain ⟨whole, bytes⟩ := whole
    obtain ⟨state, decoded, processed⟩ := bind_ok.mp processed
    obtain ⟨sent', -, processed⟩ := bind_ok.mp processed
    cases processed
    refine ⟨state, decoded, ?_⟩
    unfold conclude at concluded
    dsimp only [TcpState.setLocal] at concluded
    cases carried : state.appState with
    | migratedIn buffer =>
      rw [carried] at concluded
      cases concluded
      exact ⟨⟨_, rfl⟩, rfl⟩
    | registered application =>
      rw [carried] at concluded
      cases concluded
      exact ⟨⟨_, rfl⟩, rfl⟩
    | none =>
      rw [carried] at concluded
      cases concluded
      exact ⟨⟨_, rfl⟩, rfl⟩

namespace Transfer

/-- A transfer depends only on the stage and the defragmenter of the record. -/
theorem congr (transfer : Transfer profile client read segment pieces sent arrived target)
    (same : ∀ active, target.activeMigrations.lookup client = some active →
      ∃ active', target'.activeMigrations.lookup client = some active' ∧
        active'.lastSentStage = active.lastSentStage ∧ active'.defragmenter = active.defragmenter) :
    Transfer profile client read segment pieces sent arrived target' := by
  obtain ⟨active, recorded, prepared, collects⟩ := transfer.recorded
  obtain ⟨active', recorded', stage, defragmenter⟩ := same active recorded
  refine { transfer with recorded := ⟨active', recorded', stage.trans prepared, ?_⟩ }
  rw [defragmenter]
  exact collects

/-- A fragment arrives for the first time. If it completes the state, the target reports the
state and keeps its application state; otherwise the transfer goes on. -/
theorem arrive {index : Nat} {fragment : TcpMigSegment} {status : Except Fail TcpmigReceiveStatus}
    (transfer : Transfer profile client read segment pieces sent arrived target)
    (missing : index ∉ arrived) (found : sent[index]? = some fragment)
    (received : target.receive profile fragment.ipv4Hdr fragment.datagram = .ok (target', status)) :
    ((∃ state, status = .ok (.stateReceived state)) ∧
      target'.applicationState = match read.appState with
        | .migratedIn buffer => target.applicationState.insert read.cb.remote (.migratedIn buffer)
        | _ => target.applicationState) ∨
    (status = .ok .ok ∧ target'.applicationState = target.applicationState ∧
      Transfer profile client read segment pieces sent (insert index arrived) target') := by
  obtain ⟨active, recorded, prepared, collects⟩ := transfer.recorded
  unfold TcpMigPeer.receive at received
  rw [fragment.parse_own] at received
  dsimp only at received
  by_cases inside : index < pieces.length
  · -- a piece of the state
    obtain rfl : piece segment pieces index = fragment :=
      Option.some.inj ((transfer.fragmented.piece index inside).symm.trans found)
    have client' : (piece segment pieces index).tcpmigHdr.client = client := transfer.addressed
    have stage' : (piece segment pieces index).tcpmigHdr.stage = .connectionState := transfer.stage
    obtain ⟨defragmenter, whole, gathered, outcome⟩ := TcpMigPeer.receiveMessage_state
      (client'.symm ▸ recorded) prepared stage' received
    obtain ⟨-, after, returned⟩ | ⟨-, after, further, returned⟩ := collects.defragment profile segment
      transfer.fragmented.few transfer.fragmented.filled inside missing
    · cases returned.symm.trans gathered
      obtain ⟨state, decoded, reported, application⟩ := outcome
      cases transfer.decoded.symm.trans decoded
      exact .inl ⟨reported, application⟩
    · cases returned.symm.trans gathered
      obtain ⟨rfl, rfl⟩ := outcome
      refine .inr ⟨rfl, rfl, { transfer with recorded := ?_ }⟩
      refine ⟨{ active with defragmenter }, ?_, prepared, further⟩
      rw [client']
      exact AList.lookup_insert _
  · -- a fragment that carries nothing is taken for a whole state, which cannot be read
    obtain ⟨empty, header⟩ := transfer.fragmented.extra index fragment (Nat.le_of_not_lt inside) found
    rw [empty] at received
    have client' : fragment.tcpmigHdr.client = client := by
      rw [header]
      exact transfer.addressed
    have stage' : fragment.tcpmigHdr.stage = .connectionState := by
      rw [header]
      exact transfer.stage
    obtain ⟨defragmenter, whole, gathered, outcome⟩ := TcpMigPeer.receiveMessage_state
      (client'.symm ▸ recorded) prepared stage' received
    rw [header] at gathered
    cases gathered
    obtain ⟨state, decoded, -⟩ := outcome
    exact absurd decoded (TcpState.deserialize_nil profile state)

/-- A state that is sent to a target that awaits it is on its way, with the bytes of the
application that is registered for its client. -/
theorem depart {origin origin' : TcpMigPeer} {state : TcpState} {application : ApplicationState}
    {bytes : Buffer} {active : ActiveMigration}
    (sends : origin.sendTcpState profile state = .ok origin')
    (filed : ∀ active, origin.activeMigrations.lookup state.cb.remote = some active →
      active.client = state.cb.remote)
    (registered : origin.applicationState.lookup state.cb.remote = some (.registered application))
    (writes : application.Writes bytes) (something : bytes ≠ [])
    (recorded : target.activeMigrations.lookup state.cb.remote = some active)
    (prepared : active.lastSentStage = .prepareMigrationAck) (fresh : active.defragmenter = .new) :
    ∃ segment pieces, Transfer profile state.cb.remote ⟨state.cb.untimed, .migratedIn bytes⟩ segment
      pieces (origin'.transmitted.drop origin.transmitted.length) ∅ target := by
  obtain ⟨exporting, image, sent, recorded', -, serialized, sends', becomes⟩ :=
    TcpMigPeer.sendTcpState_ok sends
  have carried : origin.registered state.cb.remote = some application := by
    simp only [TcpMigPeer.registered, registered]
  rw [carried] at serialized
  obtain ⟨written, remaining, -, -, -, serialized', decoded⟩ := TcpState.travels profile
    (TcpState.fits_of_serialized serialized)
    (show (state.withApplication (some application)).appState.Writes bytes from writes)
  cases serialized.symm.trans serialized'
  rw [if_neg something] at decoded
  obtain ⟨pieces, whole, fragmented⟩ := ActiveMigration.send_fragmented sends'
  have shipped : origin'.transmitted.drop origin.transmitted.length = sent := by
    rw [becomes.transmitted, List.drop_left]
  refine ⟨_, pieces, shipped ▸ fragmented, filed exporting recorded', rfl, ?_, active, recorded,
    prepared, ?_⟩
  · rw [whole]
    exact decoded
  · rw [fresh]
    exact Collects.new pieces

end Transfer

end Capybara
