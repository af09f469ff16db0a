import Capybara.Runtime.Buffer
import Capybara.Tcp.SequenceNumber

/-!
# Congestion control and retransmission timeout, as the connection uses them

The control block holds its congestion control behind a trait object and its
retransmission timeout in a floating-point calculator. Both are parameters of
the model: a type with the operations of the trait, or of `RtoCalculator`.

`congestion_control::None`, which every handshake installs, is the instance
`NoCongestionControl`. `IntegerRto` follows the formulas of `rto.rs` in whole
nanoseconds, so that a connection can be evaluated.
-/

namespace Capybara

/-- The traits of `congestion_control/mod.rs`. Watched quantities count their
changes; a clock reading stands for the implementation's own `Instant::now`. -/
class CongestionControl (κ : Type) where
  new : (mss : Nat) → (seqNo : SeqNumber) → κ
  cwnd : κ → WatchedValue UInt32
  limitedTransmitCwndIncrease : κ → WatchedValue UInt32
  retransmitNowFlag : κ → WatchedValue Bool
  onCwndCheckBeforeSend : (now : Instant) → κ → κ
  onAckReceived : (now : Instant) → (rto : Duration) →
    (sendUnacked sendNext ackSeqNo : SeqNumber) → κ → κ
  onRto : (sendUnacked : SeqNumber) → κ → κ
  onSend : (now : Instant) → (rto : Duration) → (numSentBytes : Nat) → κ → κ
  onFastRetransmit : κ → κ

/-- `congestion_control::None`: every method keeps its default. -/
structure NoCongestionControl where
  deriving DecidableEq, Repr

instance : CongestionControl NoCongestionControl where
  new _ _ := {}
  cwnd _ := { value := 0xffffffff }
  limitedTransmitCwndIncrease _ := { value := 0 }
  retransmitNowFlag _ := { value := false }
  onCwndCheckBeforeSend _ cc := cc
  onAckReceived _ _ _ _ _ cc := cc
  onRto _ cc := cc
  onSend _ _ _ cc := cc
  onFastRetransmit cc := cc

/-- The operations of `RtoCalculator`. -/
class RtoCalculator (ρ : Type) where
  new : ρ
  addSample : (rtt : Duration) → ρ → ρ
  backOff : ρ → ρ
  rto : ρ → Duration

/-- `RtoCalculator` with whole nanoseconds in place of `f64` seconds. -/
structure IntegerRto where
  srtt : Duration := 1000000000
  rttvar : Duration := 0
  rto : Duration := 1000000000
  receivedSample : Bool := false
  deriving DecidableEq, Repr

/-- `update_rto`: clamp to a tenth of a second and sixty seconds. -/
def IntegerRto.updateRto (calculator : IntegerRto) (rto : Duration) : IntegerRto :=
  { calculator with rto := min (max rto 100000000) 60000000000 }

/-- `add_sample`: the formulas of RFC 6298, Sections 2.2 and 2.3. -/
def IntegerRto.addSample (rtt : Duration) (calculator : IntegerRto) : IntegerRto :=
  let sampled : IntegerRto :=
    if calculator.receivedSample then
      let deviation := max calculator.srtt rtt - min calculator.srtt rtt
      { calculator with
        rttvar := (3 * calculator.rttvar + deviation) / 4
        srtt := (7 * calculator.srtt + rtt) / 8 }
    else
      { calculator with srtt := rtt, rttvar := rtt / 2, receivedSample := true }
  sampled.updateRto (sampled.srtt + max 1000000 (4 * sampled.rttvar))

instance : RtoCalculator IntegerRto where
  new := {}
  addSample := IntegerRto.addSample
  backOff calculator := calculator.updateRto (2 * calculator.rto)
  rto calculator := calculator.rto

end Capybara
