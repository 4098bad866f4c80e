import ForexJournal.Time.Instant

/-!
# Trading sessions

The four sessions are windows of the UTC day, in minutes after midnight; Sydney's window
wraps past midnight. On Saturday and Sunday no session is open. A moment belongs to every
window that contains its minute of the day, reported in the order Sydney, Asia, London,
New York.
-/

namespace ForexJournal

/-- A trading session. -/
inductive Session where
  | sydney
  | asia
  | london
  | newYork
  deriving DecidableEq, Repr, Inhabited

/-- The name of a session. -/
def Session.name : Session → String
  | .sydney => "sydney"
  | .asia => "asia"
  | .london => "london"
  | .newYork => "new_york"

/-- A session's window: from `startMinute` included to `endMinute` excluded. -/
structure SessionWindow where
  session : Session
  startMinute : Nat
  endMinute : Nat

namespace SessionWindow

def wrapsMidnight (w : SessionWindow) : Bool := w.endMinute < w.startMinute

def contains (w : SessionWindow) (minute : Nat) : Bool :=
  if w.wrapsMidnight then w.startMinute ≤ minute || minute < w.endMinute
  else w.startMinute ≤ minute && minute < w.endMinute

end SessionWindow

def sessionWindows : List SessionWindow :=
  [⟨.sydney, 21 * 60, 5 * 60 + 30⟩, ⟨.asia, 0, 9 * 60⟩, ⟨.london, 8 * 60, 16 * 60 + 30⟩,
    ⟨.newYork, 13 * 60, 21 * 60⟩]

/-- The sessions open at a moment. -/
def deriveSessions (moment : Instant) : List Session :=
  if 5 ≤ moment.weekday then []
  else
    let c := moment.civil
    let minute := c.hour * 60 + c.minute
    (sessionWindows.filter (·.contains minute)).map (·.session)

end ForexJournal
