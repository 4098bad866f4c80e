import ForexJournal.Trade.Plan
import ForexJournal.Trade.Execution

/-!
# Commands of the command line

Each subcommand with its arguments, already read into the journal's types. Every command but
`sessions` names the configuration file it runs under.
-/

namespace ForexJournal

/-- A candle series: an instrument and a timeframe. -/
structure Series where
  symbol : String
  timeframe : Timeframe

/-- A command of the journal's command line. -/
inductive Command where
  /-- create the database schema -/
  | initDb (config : String)
  /-- import candles from a file of comma-separated values -/
  | importCandles (config file : String) (series : Series)
  /-- recompute the indicators of a series -/
  | backfillIndicators (config : String) (series : Series)
  /-- evaluate the rules for one candle, or for every candle of a series -/
  | evaluate (config : String) (candle : Option Uuid) (series : Series)
  /-- open an account -/
  | addAccount (config : String) (account : NewAccount)
  /-- plan and size a trade -/
  | planTrade (config : String) (plan : TradePlan)
  /-- record a fill; without a time, the fill happens now -/
  | record (config : String) (trade : Uuid) (kind : ExecutionKind) (price size : Decimal)
      (reason : Option String) (executedAt : Option Instant)
  /-- cancel or invalidate a trade that was never filled -/
  | terminate (config : String) (trade : Uuid) (marker : TerminalMarker) (reason : String)
  /-- show a trade's state, open size and realised profit -/
  | status (config : String) (trade : Uuid)
  /-- list the trading sessions open at an instant -/
  | sessions (moment : Instant)

/-- The configuration file a command runs under; `sessions` needs none. -/
def Command.configPath : Command → Option String
  | .initDb c | .importCandles c .. | .backfillIndicators c .. | .evaluate c .. | .addAccount c .. |
    .planTrade c .. | .record c .. | .terminate c .. | .status c .. => some c
  | .sessions _ => none

end ForexJournal
