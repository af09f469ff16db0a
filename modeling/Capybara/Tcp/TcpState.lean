import Capybara.Tcp.Established.StateCodec

/-!
# The state that migrates

The `state` module of `tcp/peer.rs`. The exported control block is followed by one
byte that says whether the application travels with it, and then by the bytes of
the application, which end where the buffer ends.

The application's own encoder is not part of the repository. It is given a slice
and may change its contents, never its length; what the stack relies on is that it
fills exactly as many bytes as it announced.
-/

namespace Capybara

open Wire

/-- `ApplicationState`: the announced size, and what `serialize` makes of a slice. -/
structure ApplicationState where
  serializedSize : Nat
  serialize : Buffer → Buffer
  serialize_length : ∀ slice, (serialize slice).length = slice.length

/-- `MigratedApplicationState`. -/
inductive MigratedApplicationState where
  | registered (state : ApplicationState)
  | migratedIn (buffer : Buffer)
  | none

/-- `TcpState`. -/
structure TcpState where
  cb : ControlBlockState
  appState : MigratedApplicationState

/-- `slice[0] = byte`. -/
def setFirst (byte : UInt8) : Buffer → Checked Buffer
  | [] => .error .sliceOutOfRange
  | _ :: rest => .ok (byte :: rest)

/-- The match of `TcpState::serialize` over the application: what becomes of the
bytes behind the control block. -/
def MigratedApplicationState.fill : MigratedApplicationState → Buffer → Checked Buffer
  | .registered application, remaining =>
    if application.serializedSize = 0 then setFirst 0 remaining
    else do
      let remaining ← setFirst 1 remaining
      .ok (remaining.take 1 ++ application.serialize (remaining.drop 1))
  | .none, remaining | .migratedIn _, remaining => setFirst 0 remaining

namespace TcpState

/-- `TcpState::new`. -/
def new (cb : ControlBlockState) : TcpState := ⟨cb, .none⟩

/-- `TcpState::add_app_state`. -/
def addAppState (state : TcpState) (appState : ApplicationState) : TcpState :=
  { state with appState := .registered appState }

/-- Add the application that is registered for the connection, if there is one. -/
def withApplication (state : TcpState) : Option ApplicationState → TcpState
  | some application => state.addAppState application
  | none => state

/-- The application is not part of the control block. -/
@[simp] theorem withApplication_cb (state : TcpState) (application : Option ApplicationState) :
    (state.withApplication application).cb = state.cb := by
  cases application with
  | none => rfl
  | some application => rfl

/-- `TcpState::set_local`. -/
def setLocal (state : TcpState) (localAddr : SocketAddrV4) : TcpState :=
  { state with cb := state.cb.setLocal localAddr }

/-- `TcpState::serialized_size`. -/
def serializedSize (state : TcpState) : Nat :=
  state.cb.serializedSize + 1 +
    match state.appState with
    | .registered application => application.serializedSize
    | .none | .migratedIn _ => 0

/-- `TcpState::serialize`. The size is never zero, so the buffer can be made. -/
def serialize (state : TcpState) : Checked Buffer := do
  let (written, remaining) ← state.cb.serializeInto (List.replicate state.serializedSize 0)
  let remaining ← state.appState.fill remaining
  .ok (written ++ remaining)

/-- `TcpState::deserialize`. -/
def deserialize (profile : Profile) (buf : Buffer) : Checked TcpState := do
  let (cb, buf) ← (ControlBlockState.deserializeFrom profile).run buf
  match buf with
  | [] => .error .sliceOutOfRange
  | flag :: rest => .ok ⟨cb, if flag = 0 then .none else .migratedIn rest⟩

end TcpState

/-- The application's encoder fills the announced number of bytes, with these. -/
def ApplicationState.Writes (application : ApplicationState) (image : Buffer) : Prop :=
  image.length = application.serializedSize ∧
    ∀ slice : Buffer, application.serializedSize ≤ slice.length →
      application.serialize slice = image ++ slice.drop application.serializedSize

/-- The bytes that the application adds: those of a registered one. -/
def MigratedApplicationState.Writes : MigratedApplicationState → Buffer → Prop
  | .registered application, image => application.Writes image
  | .none, image | .migratedIn _, image => image = []

namespace TcpState

/-- The part behind the control block: the flag, and the application if it has any bytes. -/
def tail (image : Buffer) : Buffer := if image = [] then [0] else 1 :: image

/-- The application takes one byte for its kind and the bytes of its image. -/
theorem tail_length (image : Buffer) : (tail image).length = 1 + image.length := by
  unfold tail
  split
  · simp_all
  · rw [List.length_cons, Nat.add_comm]

/-- The size that is computed is that of the control block and of what the application writes.
-/
theorem serializedSize_eq {state : TcpState} {image : Buffer} (writes : state.appState.Writes image) :
    state.serializedSize = state.cb.serializedSize + (tail image).length := by
  rw [tail_length, serializedSize]
  cases application : state.appState with
  | registered application' =>
    rw [application] at writes
    simp only [writes.1]
    omega
  | none | migratedIn _ =>
    rw [application] at writes
    cases writes
    rfl

/-- Whatever the rest of the buffer holds, it becomes the flag and the application. -/
theorem fill_eq {appState : MigratedApplicationState} {image remaining : Buffer}
    (writes : appState.Writes image) (room : remaining.length = (tail image).length) :
    appState.fill remaining = .ok (tail image) := by
  rw [tail_length] at room
  cases remaining with
  | nil =>
    simp only [List.length_nil] at room
    omega
  | cons first rest =>
    have restLength : rest.length = image.length := by
      simp only [List.length_cons] at room
      omega
    cases appState with
    | registered application =>
      obtain ⟨length, fills⟩ := writes
      by_cases empty : application.serializedSize = 0
      · have nothing : image = [] := List.length_eq_zero_iff.mp (length.trans empty)
        subst nothing
        simp [MigratedApplicationState.fill, empty, setFirst, tail,
          List.length_eq_zero_iff.mp restLength]
      · have something : image ≠ [] := by
          rintro rfl
          exact empty length.symm
        have filled : application.serialize rest = image := by
          rw [fills rest (by omega), ← length, ← restLength, List.drop_length, List.append_nil]
        simp [MigratedApplicationState.fill, empty, setFirst, tail, something, filled, bind,
          Except.bind]
    | none | migratedIn _ =>
      cases writes
      simp [MigratedApplicationState.fill, setFirst, tail, List.length_eq_zero_iff.mp restLength]

/-- The encoder writes the control block and then the tail, to the last byte; the
decoder recovers both. -/
theorem travels (profile : Profile) {state : TcpState} {application : Buffer}
    (fits : state.cb.Fits) (writes : state.appState.Writes application) :
    ∃ written remaining,
      state.cb.serializeInto (List.replicate state.serializedSize 0) = .ok (written, remaining) ∧
      remaining.length = (tail application).length ∧
      written.length + remaining.length = state.serializedSize ∧
      state.serialize = .ok (written ++ tail application) ∧
      deserialize profile (written ++ tail application) =
        .ok ⟨state.cb.untimed, if application = [] then .none else .migratedIn application⟩ := by
  obtain ⟨written, length, fills, reads⟩ := ControlBlockState.conveys profile fits
  have size := serializedSize_eq writes
  have wrote := fills (List.replicate state.serializedSize 0) (by simp; omega)
  have room : ((List.replicate state.serializedSize (0 : UInt8)).drop written.length).length =
      (tail application).length := by
    rw [List.length_drop, List.length_replicate]
    omega
  refine ⟨written, _, wrote, room, ?_, ?_, ?_⟩
  · rw [room]
    omega
  · simp only [serialize, wrote, fill_eq writes room, bind, Except.bind]
  · simp only [deserialize, reads (tail application), bind, Except.bind]
    by_cases nothing : application = []
    · simp [tail, nothing]
    · simp [tail, nothing]

/-- Whatever the application writes, the rest of the buffer is a flag with some bytes. -/
theorem fill_shape (appState : MigratedApplicationState) {remaining : Buffer}
    (room : remaining ≠ []) : ∃ flag rest, appState.fill remaining = .ok (flag :: rest) := by
  obtain ⟨first, rest, rfl⟩ := List.exists_cons_of_ne_nil room
  cases appState with
  | registered application =>
    by_cases empty : application.serializedSize = 0
    · exact ⟨0, rest, by simp [MigratedApplicationState.fill, empty, setFirst]⟩
    · exact ⟨1, application.serialize rest, by
        simp [MigratedApplicationState.fill, empty, setFirst, bind, Except.bind]⟩
  | none | migratedIn _ => exact ⟨0, rest, rfl⟩

/-- The control block travels whatever the application writes. -/
theorem cb_travels (profile : Profile) (state : TcpState) (fits : state.cb.Fits) :
    ∃ buffer appState, state.serialize = .ok buffer ∧
      deserialize profile buffer = .ok ⟨state.cb.untimed, appState⟩ := by
  obtain ⟨written, length, fills, reads⟩ := ControlBlockState.conveys profile fits
  have size : state.cb.serializedSize < state.serializedSize := by
    rw [serializedSize]
    omega
  have wrote := fills (List.replicate state.serializedSize 0) (by
    rw [List.length_replicate]
    omega)
  have room : (List.replicate state.serializedSize (0 : UInt8)).drop written.length ≠ [] := by
    rw [ne_eq, List.drop_eq_nil_iff, List.length_replicate]
    omega
  obtain ⟨flag, rest, filled⟩ := fill_shape state.appState room
  refine ⟨written ++ flag :: rest, if flag = 0 then .none else .migratedIn rest, ?_, ?_⟩
  · simp only [serialize, wrote, filled, bind, Except.bind]
  · simp only [deserialize, reads (flag :: rest), bind, Except.bind]

/-- The application changes the rest of the buffer, never its length. -/
theorem fill_length {appState : MigratedApplicationState} {remaining filled : Buffer}
    (fills : appState.fill remaining = .ok filled) : filled.length = remaining.length := by
  cases remaining with
  | nil =>
    cases appState with
    | registered application =>
      by_cases empty : application.serializedSize = 0
      · simp [MigratedApplicationState.fill, empty, setFirst] at fills
      · simp [MigratedApplicationState.fill, empty, setFirst, bind, Except.bind] at fills
    | none | migratedIn _ => cases fills
  | cons first rest =>
    cases appState with
    | registered application =>
      by_cases empty : application.serializedSize = 0
      · simp only [MigratedApplicationState.fill, if_pos empty, setFirst, Except.ok.injEq] at fills
        rw [← fills]
        rfl
      · simp only [MigratedApplicationState.fill, if_neg empty, setFirst, bind, Except.bind,
          Except.ok.injEq] at fills
        rw [← fills]
        simp [application.serialize_length]
    | none | migratedIn _ =>
      cases fills
      rfl

/-- A state that was serialised has counts and lengths below `2 ^ 32`. -/
theorem fits_of_serialized {state : TcpState} {buffer : Buffer}
    (serialized : state.serialize = .ok buffer) : state.cb.Fits := by
  obtain ⟨_, wrote, _⟩ := bind_ok.mp serialized
  exact ControlBlockState.fits_of_written wrote

/-- A state takes up `serialized_size` bytes. -/
theorem serialize_length {state : TcpState} {buffer : Buffer}
    (serialized : state.serialize = .ok buffer) : buffer.length = state.serializedSize := by
  obtain ⟨written, length, fills, -⟩ :=
    ControlBlockState.conveys .dev (fits_of_serialized serialized)
  have room : state.cb.serializedSize ≤ state.serializedSize := by
    rw [serializedSize]
    omega
  have wrote := fills (List.replicate state.serializedSize 0) (by
    rw [List.length_replicate]
    omega)
  obtain ⟨_, wrote', serialized⟩ := bind_ok.mp serialized
  cases wrote.symm.trans wrote'
  obtain ⟨filled, filled', serialized⟩ := bind_ok.mp serialized
  cases serialized
  rw [List.length_append, fill_length filled', List.length_drop, List.length_replicate]
  omega

/-- The bytes are those of a control block, behind which at least one byte follows. -/
def Image (cb : ControlBlockState) (bytes : Buffer) : Prop :=
  cb.Fits ∧ ∃ written flag rest, cb.serializeInto.Writes written ∧ bytes = written ++ flag :: rest

/-- Such bytes are read back. -/
theorem Image.deserialize {cb : ControlBlockState} {bytes : Buffer} (image : Image cb bytes)
    (profile : Profile) : ∃ appState, deserialize profile bytes = .ok ⟨cb.untimed, appState⟩ := by
  obtain ⟨fits, written, flag, rest, writes, rfl⟩ := image
  obtain ⟨written', -, writes', reads⟩ := ControlBlockState.conveys profile fits
  have same : written = written' := by
    have wrote := writes (List.replicate (written.length + written'.length) 0) (by simp)
    have wrote' := writes' (List.replicate (written.length + written'.length) 0) (by simp)
    exact congrArg Prod.fst (Except.ok.inj (wrote.symm.trans wrote'))
  subst same
  refine ⟨if flag = 0 then .none else .migratedIn rest, ?_⟩
  simp only [TcpState.deserialize, reads (flag :: rest), bind, Except.bind]

/-- What a state is serialised to is an image of its control block. -/
theorem image_of_serialized {state : TcpState} {buffer : Buffer}
    (serialized : state.serialize = .ok buffer) : Image state.cb buffer := by
  have fits := fits_of_serialized serialized
  obtain ⟨written, length, writes, -⟩ := ControlBlockState.conveys .dev fits
  have size : state.cb.serializedSize < state.serializedSize := by
    rw [serializedSize]
    omega
  have wrote := writes (List.replicate state.serializedSize 0) (by
    rw [List.length_replicate]
    omega)
  have room : (List.replicate state.serializedSize (0 : UInt8)).drop written.length ≠ [] := by
    rw [ne_eq, List.drop_eq_nil_iff, List.length_replicate]
    omega
  obtain ⟨flag, rest, filled⟩ := fill_shape state.appState room
  refine ⟨fits, written, flag, rest, writes, ?_⟩
  simp only [serialize, wrote, filled, bind, Except.bind, Except.ok.injEq] at serialized
  exact serialized.symm

/-- Connection-state codec round trip. A state whose counts and lengths are below
`2 ^ 32` is written into its `serialized_size` bytes to the last one, and read back
as an equal control block with exactly the bytes of the application.

Proof: `travels` follows the bytes part by part: each writer fills exactly the room that
`serialized_size` counts for it, and each reader takes exactly what its writer has left.
The times of the unacknowledged segments are not written and not compared. -/
theorem codec_round_trip (profile : Profile) (state : TcpState) (application : Buffer)
    (fits : state.cb.Fits) (writes : state.appState.Writes application) :
    ∃ written remaining cb,
      state.cb.serializeInto (List.replicate state.serializedSize 0) = .ok (written, remaining) ∧
      remaining.length = (tail application).length ∧
      written.length + remaining.length = state.serializedSize ∧
      state.serialize = .ok (written ++ tail application) ∧
      deserialize profile (written ++ tail application) =
        .ok ⟨cb, if application = [] then .none else .migratedIn application⟩ ∧
      state.cb.eq cb = true := by
  obtain ⟨written, remaining, wrote, room, length, serialized, read⟩ := travels profile fits writes
  exact ⟨written, remaining, state.cb.untimed, wrote, room, length, serialized, read,
    state.cb.eq_untimed⟩

end TcpState

/-- A state with a segment out of order, a remembered FIN and data in every queue. -/
def ControlBlockState.sample : ControlBlockState where
  localAddr := ⟨0x0a000001#32, 80⟩
  remote := ⟨0x0a000002#32, 4321⟩
  receiveBufferSize := 1000
  windowScale := 0
  outOfOrderFin := some (SeqNumber.ofU32 110)
  outOfOrderQueue := [(SeqNumber.ofU32 105, [5, 6])]
  receiver := ⟨SeqNumber.ofU32 100, SeqNumber.ofU32 103, [[1, 2], [3]]⟩
  sender := {
    unsentSeqNo := SeqNumber.ofU32 1006
    sendUnacked := SeqNumber.ofU32 1000
    sendNext := SeqNumber.ofU32 1002
    sendWindow := 2
    sendWindowLastUpdateSeq := SeqNumber.ofU32 100
    sendWindowLastUpdateAck := SeqNumber.ofU32 1000
    mss := 536
    windowScale := 0
    unackedQueue := [⟨[7, 8], some 5⟩]
    unsentQueue := [[9, 10, 11], [12]] }

/-- An application of two bytes. -/
def ApplicationState.sample : ApplicationState where
  serializedSize := 2
  serialize slice := ([20, 21] ++ slice.drop 2).take slice.length
  serialize_length slice := by
    rw [List.length_take, List.length_append, List.length_drop]
    simp
    omega

/-- The sample writes two bytes. -/
theorem ApplicationState.sample_writes : ApplicationState.sample.Writes [20, 21] := by
  refine ⟨rfl, fun slice room => List.take_of_length_le ?_⟩
  change 2 ≤ slice.length at room
  rw [List.length_append, List.length_drop]
  simp
  omega

namespace TcpState

/-- The sample travels with its application, in 120 bytes. -/
theorem codec_round_trip_sample :
    ∃ written remaining cb,
      ControlBlockState.sample.serializeInto (List.replicate 120 0) = .ok (written, remaining) ∧
      remaining.length = 3 ∧ written.length + remaining.length = 120 ∧
      ((new .sample).addAppState .sample).serialize = .ok (written ++ [1, 20, 21]) ∧
      deserialize .dev (written ++ [1, 20, 21]) = .ok ⟨cb, .migratedIn [20, 21]⟩ ∧
      ControlBlockState.sample.eq cb = true :=
  codec_round_trip .dev ((new .sample).addAppState .sample) [20, 21]
    ⟨⟨by decide, by decide⟩, ⟨by decide, by decide⟩, ⟨by decide, by decide⟩, ⟨by decide, by decide⟩⟩
    ApplicationState.sample_writes

end TcpState

end Capybara
