import ForexJournal.Cli.Arguments

/-!
# Help text

The summary the command line prints when asked for help, or when it is given no subcommand.
-/

namespace ForexJournal

/-- The lines of the command line's help. -/
def helpLines : List String :=
  ["Forex trade journal and trend rule checker",
   "",
   "Usage: trendjournal <COMMAND>",
   "",
   "Commands:",
   "  init-db              Create the database schema",
   "  import-candles       Import candles from a CSV file",
   "  backfill-indicators  Recompute EMAs and swings for a candle series",
   "  evaluate             Evaluate trend rules for one candle, or for the whole series",
   "  add-account          Create a trading account",
   "  plan-trade           Plan and size a trade",
   "  record               Record an execution against a trade",
   "  terminate            Cancel or invalidate a trade that was never entered",
   "  status               Show a trade's state, open size and realized PnL",
   "  sessions             List the trading sessions open at an instant",
   "  help                 Print this message or the help of the given subcommand(s)",
   "",
   "Options:",
   "  -h, --help  Print help"]

/-- The lines printed for a command line that was not read: the help, or the error line with
a pointer to the help. -/
def ArgError.report (e : ArgError) : List String :=
  if e.line.isEmpty then helpLines
  else [e.line, "", "For more information, try '--help'."]

end ForexJournal
