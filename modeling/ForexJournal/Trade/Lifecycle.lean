import ForexJournal.Trade.Execution

/-!
# Trade lifecycle

A trade's state is never stored: it is read off its marker and its history. A marker
decides alone. Otherwise the kinds, in time order, are replayed from `planned` through the
transition table, and the first kind the table refuses is reported with its position.

The open size is replayed the same way: the entry opens the planned size, a partial close
must leave something open, and a closing fill must take exactly what is left.
-/

namespace ForexJournal

namespace TradeState

/-- Refuses an event the state does not allow, naming the position in the history. -/
def ensureTransition (s : TradeState) (k : ExecutionKind) (index : Nat) :
    Except JournalError Unit :=
  if s.canTake k then .ok () else .error (.invalidTransition index s k)

/-- Replays kinds from a state; `index` is the position of the first of them. -/
def replay (s : TradeState) (index : Nat) : List ExecutionKind → Except JournalError TradeState
  | [] => .ok s
  | k :: ks => do
    ensureTransition s k index
    replay (s.apply k) (index + 1) ks

/-- The state of a trade from its marker and history. -/
def derive (marker : Option TerminalMarker) (h : List Execution) :
    Except JournalError TradeState :=
  match marker with
  | some m => .ok (ofMarker m)
  | none => replay .planned 0 (Execution.kindsByTime h)

end TradeState

namespace Lifecycle

/-- What a non-entry fill of `size` leaves open out of `remaining`. -/
def applySize (k : ExecutionKind) (size remaining : Decimal) : Except JournalError Decimal :=
  match k with
  | .partialClose =>
    if size.isNonPositive then .error (.sizeMismatch "partial close size must be positive")
    else if !size.lt remaining then
      .error (.sizeMismatch ("partial close " ++ size.toText ++ " must be less than remaining " ++
        remaining.toText))
    else .ok (remaining.sub size)
  | .tpHit | .slHit | .manualClose =>
    if !size.sameValue remaining then
      .error (.sizeMismatch ("close size " ++ size.toText ++ " must match remaining " ++
        remaining.toText))
    else .ok Decimal.zero
  | .entry => .ok remaining

/-- Replays fills in time order; `filled` says an entry was met. -/
def replaySizes (remaining : Decimal) (filled : Bool) :
    List Execution → Except JournalError Decimal
  | [] => .ok remaining
  | e :: es =>
    if e.kind = .entry then replaySizes remaining true es
    else if !filled then .error (.prematureExecution e.kind)
    else do
      let r ← applySize e.kind e.positionSize remaining
      replaySizes r filled es

/-- The size still open after a history; before the entry, the whole planned size. -/
def remainingPosition (planned : Decimal) (h : List Execution) :
    Except JournalError Decimal :=
  if planned.isNonPositive then .error (.invalid "planned position size" "must be positive")
  else replaySizes planned false (Execution.sortByTime h)

/-- Checks a fill of `kind` and `size` against the history it would be appended to. -/
def validateSize (kind : ExecutionKind) (size planned : Decimal) (existing : List Execution) :
    Except JournalError Unit := do
  let remaining ← remainingPosition planned existing
  match kind with
  | .entry =>
    if !size.sameValue planned then
      .error (.sizeMismatch ("entry size " ++ size.toText ++ " must match planned " ++
        planned.toText))
    else .ok ()
  | _ =>
    if !existing.any (·.kind = .entry) then .error (.prematureExecution kind)
    else do
      let _ ← applySize kind size remaining
      .ok ()

/-- The price of the first entry in time order. -/
def actualEntryPrice (h : List Execution) : Except JournalError Decimal :=
  match (Execution.sortByTime h).find? (·.kind = .entry) with
  | none => .error (.invalid "history" "no entry execution found")
  | some e =>
    if e.price.isNonPositive then .error (.invalid "entry price" "must be positive")
    else .ok e.price

end Lifecycle

end ForexJournal
