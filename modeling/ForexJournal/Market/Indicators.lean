import ForexJournal.Market.Candle
import ForexJournal.Market.Ema
import ForexJournal.Market.Swing

/-!
# Indicators of a candle

Indicators come in two stages. The geometry needs only the candle and is known as soon as the
candle is imported. The averages over 20, 50 and 200 closes and the last confirmed swings need
the whole history before the candle; one forward pass over the candles, oldest first,
produces them for every candle. Stored averages keep eight decimal places.
-/

namespace ForexJournal

def emaFast : Nat := 20

def emaMid : Nat := 50

def emaSlow : Nat := 200

/-- What is known about one candle. -/
structure Indicators where
  candleId : Uuid
  ema20 : Option Decimal
  ema50 : Option Decimal
  ema200 : Option Decimal
  rangeSize : Decimal
  bodySize : Decimal
  upperWick : Decimal
  lowerWick : Decimal
  midPrice : Decimal
  lastSwingHigh : Option Decimal
  lastSwingLow : Option Decimal
  deriving Inhabited

namespace Indicators

/-- The geometry of a candle, with no average and no swing. -/
def ofCandle (c : Candle) : Except Fault Indicators := do
  let g ← c.geometry
  return ⟨c.id, none, none, none, g.rangeSize, g.bodySize, g.upperWick, g.lowerWick, g.midPrice,
    none, none⟩

/-- The fields of the object, without the candle's id. -/
def members (i : Indicators) : List (String × Json) :=
  let dec (d : Decimal) : Json := .str d.toText
  [("ema20", Json.opt dec i.ema20), ("ema50", Json.opt dec i.ema50),
    ("ema200", Json.opt dec i.ema200), ("range_size", dec i.rangeSize),
    ("body_size", dec i.bodySize), ("upper_wick", dec i.upperWick),
    ("lower_wick", dec i.lowerWick), ("mid_price", dec i.midPrice),
    ("last_swing_high", Json.opt dec i.lastSwingHigh),
    ("last_swing_low", Json.opt dec i.lastSwingLow)]

def toJson (i : Indicators) : Json := .obj (("candle_id", .str i.candleId.toText) :: i.members)

end Indicators

/-- The state of the forward pass: three averages and the swing tracker. -/
structure IndicatorPass where
  fast : Ema
  mid : Ema
  slow : Ema
  swings : SwingTracker
  deriving Inhabited

namespace IndicatorPass

def start : IndicatorPass := ⟨Ema.new emaFast, Ema.new emaMid, Ema.new emaSlow, SwingTracker.empty⟩

/-- Takes in the next candle, giving its full indicators and the new state: the swings first,
then the three averages, then the geometry. -/
def step (p : IndicatorPass) (c : Candle) : Except Fault (Indicators × IndicatorPass) := do
  let swings := p.swings.step c.high c.low
  let fast ← p.fast.step c.close
  let mid ← p.mid.step c.close
  let slow ← p.slow.step c.close
  let round (v : Option Decimal) := v.map (·.roundDp emaPlaces)
  let base ← Indicators.ofCandle c
  return ({ base with
      ema20 := round fast.value, ema50 := round mid.value, ema200 := round slow.value,
      lastSwingHigh := swings.lastHigh, lastSwingLow := swings.lastLow },
    ⟨fast, mid, slow, swings⟩)

/-- The full indicators of each candle, the candles oldest first. -/
def run (p : IndicatorPass) : List Candle → Except Fault (List Indicators)
  | [] => .ok []
  | c :: cs => do
    let (i, p') ← p.step c
    return i :: (← p'.run cs)

end IndicatorPass

/-- The full indicators of each candle of a history, oldest first. -/
def computeIndicators (candles : List Candle) : Except Fault (List Indicators) :=
  IndicatorPass.start.run candles

end ForexJournal
