import ForexJournal.Store.MarketData
import ForexJournal.Signal.Evaluation

/-!
# Candle import, indicator back-fill and rule evaluation

These are batch operations over stored candles. Each write stands alone: an import stops at the
first candle it refuses and keeps the candles stored before it, while a back-fill or an
evaluation counts a write that fails and goes on with the next candle.

An import or a back-fill computes candle geometry and averages, and an arithmetic fault there
ends the whole program (`Halt.fault`); the store keeps what was written before it. A checked
candle has prices that cannot fault, so only a back-fill over stored candles that were never
checked can reach it.
-/

namespace ForexJournal

/-- What an import stored. -/
structure ImportSummary where
  inserted : Nat
  duplicates : Nat
  deriving DecidableEq

/-- What a back-fill computed and stored. -/
structure BackfillSummary where
  candles : Nat
  saved : Nat
  failed : Nat
  withEma200 : Nat
  deriving DecidableEq

/-- What a batch evaluation did, with the number of passes of each rule that passed at
least once, by code. -/
structure BatchSummary where
  candles : Nat
  evaluated : Nat
  failed : Nat
  passes : List (String × Nat)
  deriving DecidableEq

def ImportSummary.toJson (s : ImportSummary) : Json :=
  .obj [("inserted", .num s.inserted), ("duplicates", .num s.duplicates)]

def BackfillSummary.toJson (s : BackfillSummary) : Json :=
  .obj [("candles", .num s.candles), ("saved", .num s.saved), ("failed", .num s.failed),
    ("with_ema200", .num s.withEma200)]

def BatchSummary.toJson (s : BatchSummary) : Json :=
  .obj [("candles", .num s.candles), ("evaluated", .num s.evaluated), ("failed", .num s.failed),
    ("passes", .obj (s.passes.map fun (k, n) => (k, .num n)))]

/-- Counts one more pass of a rule, keeping the codes in order. -/
def countPass (code : String) : List (String × Nat) → List (String × Nat)
  | [] => [(code, 1)]
  | (k, n) :: rest =>
    if code = k then (k, n + 1) :: rest
    else if compare code k == .lt then (code, 1) :: (k, n) :: rest
    else (k, n) :: countPass code rest

/-- How an operation ends early: refused with an error the program reports, or stopped by an
arithmetic fault, which ends the program itself. -/
inductive Halt where
  | refused (e : JournalError)
  | fault (f : Fault)

namespace Evaluation

/-- Stores candles one by one, each checked first, with its geometry indicators; a candle
already stored for its instant counts as a duplicate. The first refused candle ends the import
with its error, and the store keeps what was written before it. -/
def importFrom (s : Store) (acc : ImportSummary) :
    List Candle → Except Halt ImportSummary × Store
  | [] => (.ok acc, s)
  | c :: cs =>
    match c.validate with
    | .error e => (.error (.refused e), s)
    | .ok () =>
      match s.insertCandle c with
      | .error e => (.error (.refused e), s)
      | .ok (false, s') => importFrom s' { acc with duplicates := acc.duplicates + 1 } cs
      | .ok (true, s') =>
        match Indicators.ofCandle c with
        | .error f => (.error (.fault f), s')
        | .ok i =>
          match s'.saveIndicators i with
          | .error e => (.error (.refused e), s')
          | .ok s'' => importFrom s'' { acc with inserted := acc.inserted + 1 } cs

/-- Stores new candles with their geometry indicators (see `importFrom`). -/
def importCandles (s : Store) (candles : List Candle) : Except Halt ImportSummary × Store :=
  importFrom s ⟨0, 0⟩ candles

/-- Computes each candle's indicators in turn and saves them, counting the saves that fail; a
fault stops the pass, and the store keeps the saves made before it. -/
def saveAll (s : Store) (acc : BackfillSummary) (p : IndicatorPass) :
    List Candle → Except Fault BackfillSummary × Store
  | [] => (.ok acc, s)
  | c :: cs =>
    match p.step c with
    | .error f => (.error f, s)
    | .ok (i, p') =>
      let acc := if i.ema200.isSome then { acc with withEma200 := acc.withEma200 + 1 } else acc
      match s.saveIndicators i with
      | .ok s' => saveAll s' { acc with saved := acc.saved + 1 } p' cs
      | .error _ => saveAll s { acc with failed := acc.failed + 1 } p' cs

/-- Recomputes the indicators of every candle of a series in one pass, oldest first. -/
def backfillIndicators (s : Store) (symbol : String) (tf : Timeframe) :
    Except Halt BackfillSummary × Store :=
  match s.listCandles symbol tf with
  | .error e => (.error (.refused e), s)
  | .ok candles =>
    let (r, s') := saveAll s ⟨candles.length, 0, 0, 0⟩ IndicatorPass.start candles
    (r.mapError .fault, s')

/-- Stores what it can of a candle's rule results; a result already stored or one that fails
to store is skipped. -/
def storeResults (s : Store) (candle : Uuid) (now : Instant) : RuleResults → Store
  | [] => s
  | (_, r) :: rest =>
    match s.insertRuleResult candle r now with
    | .ok (_, s') => storeResults s' candle now rest
    | .error _ => storeResults s candle now rest

/-- Runs every rule against a stored candle, with the indicators of the previous candle of its
series, and stores the results. -/
def evaluateCandle (s : Store) (id : Uuid) (now : Instant) :
    Except JournalError (RuleResults × Store) := do
  let candle ← s.getCandle id
  let some ind ← s.getIndicators id | .error (.notFound "indicators" id.toText)
  let previous ← s.getPreviousIndicators candle
  let results := evaluateAllRules ⟨candle.close, ind.ema50, ind.ema200, previous.bind (·.ema50)⟩
  return (results, storeResults s id now results)

/-- Evaluates candles one by one, counting the candles that fail. -/
def evaluateEach (s : Store) (now : Instant) (acc : BatchSummary) : List Candle → BatchSummary × Store
  | [] => (acc, s)
  | c :: cs =>
    match evaluateCandle s c.id now with
    | .ok (results, s') =>
      let passes := results.foldl (fun ps (code, r) =>
        if r.outcome == .pass then countPass code ps else ps) acc.passes
      evaluateEach s' now { acc with evaluated := acc.evaluated + 1, passes } cs
    | .error _ => evaluateEach s now { acc with failed := acc.failed + 1 } cs

/-- Evaluates every stored candle of a series, oldest first. -/
def evaluateAllCandles (s : Store) (symbol : String) (tf : Timeframe) (now : Instant) :
    Except JournalError (BatchSummary × Store) := do
  let candles ← s.listCandles symbol tf
  return evaluateEach s now ⟨candles.length, 0, 0, []⟩ candles

end Evaluation

end ForexJournal
