import Capybara.Tcp.Established.SendStream
import Capybara.Tcp.Established.Transparency

/-!
# Two ends of a connection and the network between them

A client and a server hold the two ends of one connection. Whatever one end has ever
handed to the network may reach the other end at any time after, any number of times and
in any order, or never; nothing else arrives. Either end may migrate: its control block is
exported, travels as bytes and is rebuilt elsewhere, where its coroutines begin anew,
while the segments sent before are still under way.

What the application has written at one end and read at the other is a function of the
recorded run, whichever server the end was on at the time.
-/

namespace Capybara

variable {κ ρ : Type}

/-- The two ends of a connection. -/
inductive Side where
  | client
  | server
  deriving DecidableEq, Repr

/-- The opposite end. -/
def Side.other : Side → Side
  | .client => .server
  | .server => .client

/-- The other one of the other one is the one. -/
theorem Side.other_other (side : Side) : side.other.other = side := by
  cases side <;> rfl

/-- The other one is not the one. -/
theorem Side.other_ne (side : Side) : side.other ≠ side := by
  cases side <;> decide

/-- Of two ends, one is the other's opposite. -/
theorem Side.eq_or_other (side side' : Side) : side' = side ∨ side' = side.other := by
  cases side <;> cases side' <;> decide

/-- One end: the connection where it is served, and what was sent for it from where it was
served before. -/
structure Endpoint (κ ρ : Type) where
  connection : Connection κ ρ
  earlier : List TcpSegment

/-- Everything that has been sent for an end. -/
def Endpoint.sent (endpoint : Endpoint κ ρ) : List TcpSegment :=
  endpoint.earlier ++ endpoint.connection.cb.transmitted

/-- Both ends. -/
abbrev Conversation (κ ρ : Type) := Side → Endpoint κ ρ

/-- Whether an action is an arriving segment. -/
def Action.arrives : Action → Bool
  | .receive _ _ _ => true
  | _ => false

/-- An action that an end takes by itself: of its application or of its coroutines. -/
structure OwnAction where
  action : Action
  own : action.arrives = false

/-- Everything that can happen to a conversation. -/
inductive ConversationAction where
  /-- An end acts by itself. -/
  | acts (side : Side) (own : OwnAction)
  /-- A segment that has been sent for the other end, known by its place, arrives. -/
  | arrives (side : Side) (env : Env) (place : Nat)
  /-- An end moves to another server. -/
  | migrates (side : Side) (application : Option ApplicationState) (importer : Importer)
      (localAddr : SocketAddrV4)

namespace Conversation

/-- The two control blocks of a handshake. -/
def new [CongestionControl κ] [RtoCalculator ρ] (args : Side → NewConnection) :
    Conversation κ ρ :=
  fun side => ⟨Connection.new (args side), []⟩

/-- What the two sides of a handshake agree on, with a segment size that lets data through. -/
structure Mirrored (args : Side → NewConnection) : Prop where
  numbers : ∀ side, (args side.other).receiverSeqNo = (args side).senderSeqNo
  mss : ∀ side, 1 ≤ (args side).senderMss
  buffers : ∀ side, (args side).receiverWindowSize.toNat < 2 ^ 31

/-- The connection of one end goes on. -/
def advance (conversation : Conversation κ ρ) (side : Side) (connection : Connection κ ρ) :
    Conversation κ ρ :=
  Function.update conversation side { conversation side with connection }

variable [CongestionControl κ] [RtoCalculator ρ]

/-- One step. Nothing arrives from a place where nothing has been sent. -/
def step (profile : Profile) (conversation : Conversation κ ρ) :
    ConversationAction → Checked (Conversation κ ρ)
  | .acts side own => do
    let connection ← (conversation side).connection.step profile own.action
    .ok (conversation.advance side connection)
  | .arrives side env place =>
    match (conversation side.other).sent[place]? with
    | none => .ok conversation
    | some segment => do
      let connection ← (conversation side).connection.step profile
        (.receive env segment.tcpHdr (segment.data.getD []))
      .ok (conversation.advance side connection)
  | .migrates side application importer localAddr => do
    let cb ← (conversation side).connection.cb.migrate profile application importer localAddr
    .ok (Function.update conversation side ⟨⟨cb, .top⟩, (conversation side).sent⟩)

/-- A successful step. -/
abbrev Transition (κ ρ : Type) := Runs.Transition (Conversation κ ρ) ConversationAction

/-- The conversations reached from `start`, with the steps that led there. -/
abbrev Run (profile : Profile) (start : Conversation κ ρ) :
    List (Transition κ ρ) → Conversation κ ρ → Prop :=
  Runs.Run (step profile) start

/-- The bytes that a step adds to what the application of an end has written. -/
def writes (profile : Profile) (side : Side) (transition : Transition κ ρ) : Buffer :=
  match transition.action with
  | .acts side' own =>
    if side' = side then
      Connection.accepted profile ⟨(transition.source side).connection, own.action,
        (transition.target side).connection⟩
    else []
  | _ => []

/-- All that the application of an end has written. -/
def written (profile : Profile) (side : Side) : List (Transition κ ρ) → Buffer
  | [] => []
  | transition :: past => written profile side past ++ writes profile side transition

omit [CongestionControl κ] [RtoCalculator ρ] in
/-- The bytes that a step hands to the application of an end. -/
def reads (side : Side) (transition : Transition κ ρ) : Buffer :=
  match transition.action with
  | .acts side' own =>
    if side' = side then
      Connection.popped ⟨(transition.source side).connection, own.action,
        (transition.target side).connection⟩
    else []
  | _ => []

/-- All that the application of an end has read. -/
def read (side : Side) : List (Transition κ ρ) → Buffer
  | [] => []
  | transition :: past => read side past ++ reads side transition

/-- Nothing but `close` puts an empty buffer into a queue: the application sends none, and no
window probe takes the only byte of one. -/
def Unmarked (connection : Connection κ ρ) : Action → Prop
  | .send _ buf => buf ≠ []
  | .senderRound _ reply =>
    connection.probes reply = true → connection.cb.sender.topSizeUnsent ≠ some 1
  | _ => True

/-- The steps that keep the streams: besides, an end migrates while it is established and its
application has not closed. -/
def Kept (conversation : Conversation κ ρ) : ConversationAction → Prop
  | .acts side own => Unmarked (conversation side).connection own.action
  | .arrives _ _ _ => True
  | .migrates side _ _ _ => (conversation side).connection.cb.state = .established ∧
    (conversation side).connection.cb.userIsDoneSending = false

end Conversation

end Capybara
