/-!
# Trade vocabulary

The bias of a trade, the markers that end a trade before any fill, the kinds of execution,
and the states a trade passes through. Each has one text, used in messages, in storage and
in the interchange format alike.

A trade starts `planned`; an entry opens it, a partial close leaves it `partial`, and a
take-profit, stop-loss or manual close ends it `closed`. A marker ends an unfilled trade as
`cancelled` or `invalidated`.
-/

namespace ForexJournal

/-- The direction of a trade. -/
inductive Bias where
  | long
  | short
  deriving DecidableEq, Repr, Inhabited

def Bias.name : Bias → String
  | .long => "long"
  | .short => "short"

/-- A decision that ends a trade before it was ever filled. -/
inductive TerminalMarker where
  | cancelled
  | invalidated
  deriving DecidableEq, Repr, Inhabited

def TerminalMarker.name : TerminalMarker → String
  | .cancelled => "cancelled"
  | .invalidated => "invalidated"

/-- An event recorded against a trade. -/
inductive ExecutionKind where
  | entry
  | partialClose
  | tpHit
  | slHit
  | manualClose
  deriving DecidableEq, Repr, Inhabited

namespace ExecutionKind

def all : List ExecutionKind := [.entry, .partialClose, .tpHit, .slHit, .manualClose]

/-- The text of a kind. -/
def name : ExecutionKind → String
  | .entry => "entry"
  | .partialClose => "partial_close"
  | .tpHit => "tp_hit"
  | .slHit => "sl_hit"
  | .manualClose => "manual_close"

/-- Take-profit, stop-loss and manual close flatten the remaining position. -/
def isClosing : ExecutionKind → Bool
  | .tpHit | .slHit | .manualClose => true
  | .entry | .partialClose => false

def ofName? (s : String) : Option ExecutionKind := all.find? (·.name == s)

end ExecutionKind

/-- The state of a trade, derived from its marker and its executions. -/
inductive TradeState where
  | planned
  | opened
  | partiallyClosed
  | closed
  | cancelled
  | invalidated
  deriving DecidableEq, Repr, Inhabited

namespace TradeState

def all : List TradeState :=
  [.planned, .opened, .partiallyClosed, .closed, .cancelled, .invalidated]

/-- The text of a state. -/
def name : TradeState → String
  | .planned => "planned"
  | .opened => "open"
  | .partiallyClosed => "partial"
  | .closed => "closed"
  | .cancelled => "cancelled"
  | .invalidated => "invalidated"

def ofName? (s : String) : Option TradeState := all.find? (·.name == s)

/-- Closed, cancelled and invalidated trades take no further execution. -/
def isTerminal : TradeState → Bool
  | .closed | .cancelled | .invalidated => true
  | .planned | .opened | .partiallyClosed => false

/-- The kinds allowed from a state, in table order. -/
def allowedEvents : TradeState → List ExecutionKind
  | .planned => [.entry]
  | .opened | .partiallyClosed => [.partialClose, .tpHit, .slHit, .manualClose]
  | .closed | .cancelled | .invalidated => []

/-- The state an allowed event leads to. -/
def apply (_ : TradeState) : ExecutionKind → TradeState
  | .entry => .opened
  | .partialClose => .partiallyClosed
  | .tpHit | .slHit | .manualClose => .closed

def ofMarker : TerminalMarker → TradeState
  | .cancelled => .cancelled
  | .invalidated => .invalidated

def canTake (s : TradeState) (k : ExecutionKind) : Bool := s.allowedEvents.contains k

end TradeState

end ForexJournal
