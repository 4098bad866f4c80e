import ForexJournal.Instrument
import ForexJournal.Time.Instant
import ForexJournal.Json
import ForexJournal.Decimal.Text
import ForexJournal.Uuid

/-!
# Executions

An execution is one fill recorded against a trade: its kind, price, size, the time it happened
and, for closing fills, the realised profit. A history is read in time order; fills at the
same instant keep the order in which they were given (`Execution.sortByTime` is a stable
sort).

The readers of bias, marker and kind accept exactly the texts the library writes.
-/

namespace ForexJournal

/-- One fill of a trade. -/
structure Execution where
  id : Uuid
  tradeId : Uuid
  kind : ExecutionKind
  price : Decimal
  positionSize : Decimal
  pnl : Option Decimal
  pnlPips : Option Decimal
  executedAt : Instant
  reason : Option String
  deriving DecidableEq

namespace Execution

/-- The history in time order; fills at one instant keep their given order. -/
def sortByTime (h : List Execution) : List Execution :=
  h.mergeSort fun a b => a.executedAt.le b.executedAt

def kindsByTime (h : List Execution) : List ExecutionKind := (sortByTime h).map (·.kind)

/-- The execution as a JSON object. -/
def toJson (e : Execution) : Json :=
  let dec (d : Decimal) : Json := .str d.toText
  .obj [("id", .str e.id.toText), ("trade_id", .str e.tradeId.toText), ("kind", .str e.kind.name),
    ("price", dec e.price), ("position_size", dec e.positionSize), ("pnl", Json.opt dec e.pnl),
    ("pnl_pips", Json.opt dec e.pnlPips), ("executed_at", .str e.executedAt.toText),
    ("reason", Json.opt .str e.reason)]

end Execution

/-- Reads a bias from its exact text. -/
def Bias.parse (s : String) : Except JournalError Bias :=
  if s = "long" then .ok .long
  else if s = "short" then .ok .short
  else .error (.invalid "bias" ("must be 'long' or 'short', got '" ++ s ++ "'"))

/-- Reads a marker from its exact text. -/
def TerminalMarker.parse (s : String) : Except JournalError TerminalMarker :=
  if s = "cancelled" then .ok .cancelled
  else if s = "invalidated" then .ok .invalidated
  else .error (.invalid "terminal marker"
    ("must be 'cancelled' or 'invalidated', got '" ++ s ++ "'"))

/-- Reads an execution kind from its exact text. -/
def ExecutionKind.parse (s : String) : Except JournalError ExecutionKind :=
  match ExecutionKind.ofName? s with
  | some k => .ok k
  | none => .error (.invalid "execution kind" ("unknown event type '" ++ s ++ "'"))

end ForexJournal
