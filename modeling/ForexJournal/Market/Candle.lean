import ForexJournal.Instrument
import ForexJournal.Time.Instant
import ForexJournal.Uuid
import ForexJournal.Json
import ForexJournal.Decimal.Text

/-!
# Candles

A candle is one period of prices: open, high, low and close, with an optional volume. It is
consistent when every price is positive, the high is not below the low, and the open and the
close lie within the range. The geometry of a candle (range, body, wicks, middle) comes from
its four prices alone; for prices that are not consistent a difference may not fit, and that
stops the program.

Ties matter for the scale of the wicks: the larger of open and close is the close when the two
are equal, and the smaller is the open.
-/

namespace ForexJournal

/-- One period of prices of an instrument. -/
structure Candle where
  id : Uuid
  symbol : String
  timeframe : Timeframe
  timestamp : Instant
  openPrice : Decimal
  high : Decimal
  low : Decimal
  close : Decimal
  volume : Option Int
  deriving Inhabited

/-- The shape of one candle. -/
structure CandleGeometry where
  rangeSize : Decimal
  bodySize : Decimal
  upperWick : Decimal
  lowerWick : Decimal
  midPrice : Decimal
  deriving Inhabited

namespace Candle

/-- Checks that a candle's prices are consistent, giving the first broken rule. -/
def validate (c : Candle) : Except JournalError Unit :=
  if [c.openPrice, c.high, c.low, c.close].any Decimal.isNonPositive then
    .error (.invalid "candle" "prices must be positive")
  else if c.high.lt c.low then .error (.invalid "candle" "high below low")
  else if c.high.lt c.openPrice || c.openPrice.lt c.low then
    .error (.invalid "candle" "open outside high/low range")
  else if c.high.lt c.close || c.close.lt c.low then
    .error (.invalid "candle" "close outside high/low range")
  else .ok ()

def rangeSize (c : Candle) : Except Fault Decimal := c.high.trySub c.low

/-- The size of the body, close minus open without its sign. -/
def bodySize (c : Candle) : Except Fault Decimal := Decimal.abs <$> c.close.trySub c.openPrice

def upperWick (c : Candle) : Except Fault Decimal :=
  c.high.trySub (Decimal.maxOf c.openPrice c.close)

def lowerWick (c : Candle) : Except Fault Decimal :=
  (Decimal.minOf c.openPrice c.close).trySub c.low

/-- Halfway between low and high, as the low plus half the range. -/
def midPrice (c : Candle) : Except Fault Decimal := do
  c.low.tryAdd (← (← c.rangeSize).tryDiv (Decimal.ofSmallNat 2))

/-- All of a candle's geometry, computed in the order of its fields; the prices of a
consistent candle never make it fail. -/
def geometry (c : Candle) : Except Fault CandleGeometry :=
  return ⟨← c.rangeSize, ← c.bodySize, ← c.upperWick, ← c.lowerWick, ← c.midPrice⟩

/-- The candle as a JSON object. -/
def toJson (c : Candle) : Json :=
  .obj [("id", .str c.id.toText), ("symbol", .str c.symbol), ("timeframe", .str c.timeframe.name),
    ("timestamp", .str c.timestamp.toText), ("open", .str c.openPrice.toText),
    ("high", .str c.high.toText), ("low", .str c.low.toText), ("close", .str c.close.toText),
    ("volume", Json.opt Json.num c.volume)]

end Candle

/-- The geometry as a JSON object. -/
def CandleGeometry.toJson (g : CandleGeometry) : Json :=
  .obj [("range_size", .str g.rangeSize.toText), ("body_size", .str g.bodySize.toText),
    ("upper_wick", .str g.upperWick.toText), ("lower_wick", .str g.lowerWick.toText),
    ("mid_price", .str g.midPrice.toText)]

end ForexJournal
