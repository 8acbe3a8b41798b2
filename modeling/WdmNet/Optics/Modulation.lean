import WdmNet.Optics.Grid
import WdmNet.Text.Blank
import WdmNet.Failure
/-!
Modulation formats and transceivers.

Four formats are known, all at 32 GBd, each with the least generalized OSNR at which a
receiver still decodes it: BPSK 9 dB, QPSK 12 dB, 8QAM 16 dB and 16QAM 19 dB. A transceiver
names its format by text; a name that is none of the four leaves the transceiver with the
default symbol rate and the QPSK threshold.
-/

namespace WdmNet

/-- The known modulation formats. -/
inductive Modulation where
  | bpsk
  | qpsk
  | qam8
  | qam16
  deriving DecidableEq, Repr, Inhabited

namespace Modulation

/-- The name of a format. -/
def name : Modulation → String
  | bpsk => "BPSK"
  | qpsk => "QPSK"
  | qam8 => "8QAM"
  | qam16 => "16QAM"

/-- The format of exactly this name. -/
def ofName? (s : String) : Option Modulation :=
  [bpsk, qpsk, qam8, qam16].find? (·.name == s)

/-- The symbol rate of a format, baud. -/
def symbolRate (_ : Modulation) : Float := Grid.defaultSymbolRate

/-- The least generalized OSNR at which a format is received, dB. -/
def minGosnrDb : Modulation → Float
  | bpsk => 9.0
  | qpsk => 12.0
  | qam8 => 16.0
  | qam16 => 19.0

/-- Reads a format name written freely: blanks around it, any letter case and hyphens are
ignored, and nothing at all means QPSK. -/
def parse (s : String) : Except Failure Modulation :=
  let v := String.ofList ((Text.upper (Text.trimSpace s)).toList.filter (· != '-'))
  if v.isEmpty then .ok qpsk
  else match ofName? v with
    | some m => .ok m
    | none => .error (.plain ("unknown modulation format " ++ q s))

end Modulation

/-- A transceiver of a line terminal. -/
structure Transceiver where
  id : Int
  name : String
  powerDbm : Float
  modulation : String
  /-- The symbol rate, baud; zero or less means the format's own. -/
  symbolRate : Float
  deriving Repr, Inhabited

namespace Transceiver

/-- The symbol rate the transceiver runs at: its own if positive, else its format's, else the
default. -/
def effectiveSymbolRate (t : Transceiver) : Float :=
  if t.symbolRate > 0 then t.symbolRate
  else match Modulation.ofName? t.modulation with
    | some m => m.symbolRate
    | none => Grid.defaultSymbolRate

/-- The least generalized OSNR at which the transceiver receives, dB; the QPSK value for a
format that is not known. -/
def thresholdDb (t : Transceiver) : Float :=
  match Modulation.ofName? t.modulation with
  | some m => m.minGosnrDb
  | none => Modulation.qpsk.minGosnrDb

end Transceiver

end WdmNet
