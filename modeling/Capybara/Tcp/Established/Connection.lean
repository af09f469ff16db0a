import Capybara.Lib.Runs
import Capybara.Tcp.Established.Background

/-!
# An established connection as a system

The control block and its sending coroutine take one step at a time: a segment
arrives, the application reads, sends or closes, or a coroutine runs a round.
The executor is single-threaded, so these steps never overlap; their order is
arbitrary. A run is a finite sequence of such steps from a given connection; a
step that panics or never returns ends it.

The three coroutines run inside one `select_biased!` of `background`, which ends
with the first of them that returns. Only the sender can: a failed query for the
link address ends it, and the two others with it.

Everything observed about the past of a connection is a function of the recorded
run: the buffers the application popped, the bytes that `send` accepted.
-/

namespace Capybara

variable {κ ρ : Type} [CongestionControl κ] [RtoCalculator ρ]

/-- A control block together with the coroutine that sends for it. -/
structure Connection (κ ρ : Type) where
  cb : ControlBlock κ ρ
  task : SenderTask

/-- Everything that can happen to an established connection. -/
inductive Action where
  | receive (env : Env) (header : TcpHeader) (data : Buffer)
  | pollRecv (waker : Waker)
  | send (env : Env) (buf : Buffer)
  | close (env : Env)
  | senderRound (env : Env) (reply : ArpReply)
  | retransmitterRound (env : Env)
  | acknowledgerRound (env : Env)
  deriving DecidableEq, Repr

namespace Connection

/-- `EstablishedSocket::new` around a control block made by a handshake. -/
def new (args : NewConnection) : Connection κ ρ := ⟨ControlBlock.new args, .top⟩

/-- A round of one of the other two coroutines of `background`. Once the sender has
returned, `select_biased!` has dropped them, and nothing polls them again. -/
def backgroundRound (c : Connection κ ρ)
    (round : ControlBlock κ ρ → Checked (ControlBlock κ ρ)) : Checked (ControlBlock κ ρ) :=
  if c.task = .returned then .ok c.cb else round c.cb

/-- One step. The result of `send` is observed by `accepted`. -/
def step (profile : Profile) (c : Connection κ ρ) : Action → Checked (Connection κ ρ)
  | .receive env header data => do
    let cb ← c.cb.receive profile env header data
    .ok { c with cb }
  | .pollRecv waker => .ok { c with cb := (c.cb.pollRecv waker).1 }
  | .send env buf => do
    let (cb, _) ← c.cb.send profile env buf
    .ok { c with cb }
  | .close env => do
    let cb ← c.cb.close profile env
    .ok { c with cb }
  | .senderRound env reply => do
    let (task, cb) ← c.task.round profile env reply c.cb
    .ok { cb, task }
  | .retransmitterRound env => do
    let cb ← c.backgroundRound (·.retransmitterRound profile env)
    .ok { c with cb }
  | .acknowledgerRound env => do
    let cb ← c.backgroundRound (·.acknowledgerRound profile env)
    .ok { c with cb }

omit [CongestionControl κ] [RtoCalculator ρ] in
/-- A round of the retransmitter or the acknowledger runs, unless `background` has ended. -/
theorem backgroundRound_cases {c : Connection κ ρ}
    {round : ControlBlock κ ρ → Checked (ControlBlock κ ρ)} {cb : ControlBlock κ ρ}
    (done : c.backgroundRound round = .ok cb) :
    (c.task = .returned ∧ cb = c.cb) ∨ (c.task ≠ .returned ∧ round c.cb = .ok cb) := by
  unfold backgroundRound at done
  split at done
  · rename_i ended
    cases done
    exact .inl ⟨ended, rfl⟩
  · rename_i runs
    exact .inr ⟨runs, done⟩

/-- A successful step of a connection. -/
abbrev Transition (κ ρ : Type) := Runs.Transition (Connection κ ρ) Action

/-- The connections reached from `start`, with the steps that led there. -/
abbrev Run (profile : Profile) (start : Connection κ ρ) :
    List (Transition κ ρ) → Connection κ ρ → Prop :=
  Runs.Run (step profile) start

/-- The bytes that one step hands to the application. -/
def popped (transition : Transition κ ρ) : Buffer :=
  match transition.action with
  | .pollRecv waker => ((transition.source.cb.pollRecv waker).2).getD []
  | _ => []

/-- All bytes handed to the application so far, in order. -/
def allPopped : List (Transition κ ρ) → Buffer
  | [] => []
  | transition :: past => allPopped past ++ popped transition

/-- The bytes that one step adds to the stream accepted by `send`. -/
def accepted (profile : Profile) (transition : Transition κ ρ) : Buffer :=
  match transition.action with
  | .send env buf =>
    match transition.source.cb.send profile env buf with
    | .ok (_, .ok ()) => buf
    | _ => []
  | _ => []

/-- The stream accepted by `send` so far. -/
def allAccepted (profile : Profile) : List (Transition κ ρ) → Buffer
  | [] => []
  | transition :: past => allAccepted profile past ++ accepted profile transition

/-- Carry out actions one after the other. -/
def execute (profile : Profile) (start : Connection κ ρ) (actions : List Action) :
    Checked (List (Transition κ ρ) × Connection κ ρ) :=
  Runs.execute (step profile) ([], start) actions

/-- Actions that have been carried out are a run. -/
theorem run_of_execute {profile : Profile} {start state : Connection κ ρ} {actions : List Action}
    {past : List (Transition κ ρ)} (executed : execute profile start actions = .ok (past, state)) :
    Run profile start past state :=
  Runs.run_of_execute .nil executed

end Connection

/-! ## A connection to evaluate -/

/-- A connection whose peer numbers its bytes from 100 on and which numbers its
own from 1000 on. -/
def NewConnection.sample (receiverWindowSize senderWindowSize : UInt32) (senderMss : Nat) :
    NewConnection where
  localAddr := ⟨0x0a000001#32, 80⟩
  remote := ⟨0x0a000002#32, 4321⟩
  localLinkAddr := 1#48
  txChecksumOffload := false
  receiverSeqNo := SeqNumber.ofU32 100
  ackDelayTimeout := 5000000
  receiverWindowSize
  receiverWindowScale := 0
  senderSeqNo := SeqNumber.ofU32 1000
  senderWindowSize
  senderWindowScale := 0
  senderMss

/-- The connection made from such arguments. -/
def Connection.sample (receiverWindowSize senderWindowSize : UInt32) (senderMss : Nat) :
    Connection NoCongestionControl IntegerRto :=
  Connection.new (NewConnection.sample receiverWindowSize senderWindowSize senderMss)

/-- The surroundings of a sample connection, at a given time. -/
def Env.sample (now : Instant) : Env := ⟨now, some 2#48⟩

/-- An arriving segment with an acknowledgement and an open window. -/
def Action.segment (seqNum ackNum : Nat) (data : Buffer) (fin : Bool) : Action :=
  .receive (Env.sample 0) { TcpHeader.new 4321 80 with
    seqNum := SeqNumber.ofU32 seqNum
    ackNum := SeqNumber.ofU32 ackNum
    ack := true
    fin
    windowSize := 1000 } data

end Capybara
