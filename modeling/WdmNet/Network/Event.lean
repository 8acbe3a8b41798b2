import WdmNet.Failure
import WdmNet.Log.Record
import WdmNet.Trace.Span
import WdmNet.Network.Terminal
/-!
What a propagation pass tells the world, in the order it happens.

Observers hear of every completed pass, every dropped channel, every reception verdict and
every gain-control run; a terminal's listener receives each port's reports; the pass writes
debug records and spans. All of them are one stream of events, so that a caller can read off
any of these views, each in its own order.
-/

namespace WdmNet

/-- Why a pass dropped a channel. -/
inductive DropReason where
  /-- No switch rule routes the channel from its input. -/
  | noRule
  /-- The output port carries no link. -/
  | notConnected
  /-- The channel came back to a node it had crossed. -/
  | loop
  /-- Another input already sends the channel to the same output. -/
  | collision
  /-- The terminal does not receive the channel on that port. -/
  | unbound
  deriving DecidableEq, Repr, Inhabited

/-- The name of a drop reason. -/
def DropReason.name : DropReason → String
  | noRule => "no_rule"
  | notConnected => "not_connected"
  | loop => "loop"
  | collision => "collision"
  | unbound => "unbound"

/-- One event of a pass. -/
inductive Event where
  /-- A pass of this kind ended, with its error if it had one. -/
  | passCompleted (kind : String) (error : Option Failure)
  | dropped (node : String) (reason : DropReason)
  | received (terminal : String) (ok : Bool)
  | adjusted (amplifier : String) (iterations : Nat) (systemGainDb : Float)
  /-- A terminal's listener got the reports of one port. -/
  | delivered (terminal : String) (reports : List Report)
  | logged (record : Log.Record)
  | traced (span : Trace.Span)

end WdmNet
