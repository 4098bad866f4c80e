import ForexJournal.Decimal.Basic

/-!
# Swing points

A swing high is a bar whose high is strictly above the highs of the two bars on each side; a
swing low mirrors it with lows. A swing is known only once the two later bars are in, so the
tracker looks at a window of the last five bars and reports, after each bar, the last swing
high and the last swing low confirmed so far.
-/

namespace ForexJournal

/-- The last five bars as (high, low) pairs, oldest first, and the last confirmed swings. -/
structure SwingTracker where
  window : List (Decimal × Decimal)
  lastHigh : Option Decimal
  lastLow : Option Decimal
  deriving Inhabited

namespace SwingTracker

def windowSize : Nat := 5

def empty : SwingTracker := ⟨[], none, none⟩

/-- Feeds the next bar's high and low. -/
def step (t : SwingTracker) (high low : Decimal) : SwingTracker :=
  let kept := if t.window.length = windowSize then t.window.drop 1 else t.window
  let w := kept ++ [(high, low)]
  match w with
  | [a, b, (mh, ml), d, e] =>
    let others := [a, b, d, e]
    let isHigh := others.all fun (h, _) => Decimal.lt h mh
    let isLow := others.all fun (_, l) => Decimal.lt ml l
    ⟨w, if isHigh then some mh else t.lastHigh, if isLow then some ml else t.lastLow⟩
  | _ => { t with window := w }

/-- The last confirmed swings after each bar, in order. -/
def run (t : SwingTracker) : List (Decimal × Decimal) → List (Option Decimal × Option Decimal)
  | [] => []
  | (h, l) :: bars =>
    let t' := t.step h l
    (t'.lastHigh, t'.lastLow) :: t'.run bars

@[simp] theorem run_length (t : SwingTracker) (bars : List (Decimal × Decimal)) :
    (t.run bars).length = bars.length := by
  induction bars generalizing t with
  | nil => simp [run]
  | cons b bars ih => simp [run, ih]

end SwingTracker

end ForexJournal
