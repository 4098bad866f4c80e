import ForexJournal.Proofs.History
import ForexJournal.Trade.Lifecycle

/-!
# The lifecycle a history describes

The kinds of a trade's executions, read in time order, are a *course* when they are nothing yet,
an entry, an entry followed by partial closes, or such a run ended by a take-profit, stop-loss or
manual close; each course ends in one state. The courses are closed under prefixes, and a course
takes one more kind exactly when the transition table allows it from the course's state.

From these two facts the replay of the transition table is read off completely: it succeeds on
the courses with their states, and on any other word it stops at the first kind that leaves the
courses, citing the position of that kind and the state of the course before it.
-/

namespace ForexJournal

namespace TradeState

@[simp] theorem canTake_planned (k : ExecutionKind) : canTake .planned k = decide (k = .entry) := by
  cases k <;> rfl

@[simp] theorem canTake_opened (k : ExecutionKind) : canTake .opened k = decide (k ≠ .entry) := by
  cases k <;> rfl

@[simp] theorem canTake_partiallyClosed (k : ExecutionKind) :
    canTake .partiallyClosed k = decide (k ≠ .entry) := by
  cases k <;> rfl

theorem canTake_of_isTerminal {s : TradeState} (hs : s.isTerminal = true) (k : ExecutionKind) :
    canTake s k = false := by
  cases s <;> cases k <;> simp_all [isTerminal] <;> rfl

@[simp] theorem apply_entry (s : TradeState) : s.apply .entry = .opened := rfl

@[simp] theorem apply_partialClose (s : TradeState) : s.apply .partialClose = .partiallyClosed :=
  rfl

theorem apply_of_isClosing (s : TradeState) {c : ExecutionKind} (hc : c.isClosing = true) :
    s.apply c = .closed := by
  cases c <;> first | rfl | simp [ExecutionKind.isClosing] at hc

theorem ne_entry_of_isClosing {c : ExecutionKind} (hc : c.isClosing = true) : c ≠ .entry := by
  rintro rfl
  simp [ExecutionKind.isClosing] at hc

theorem ensureTransition_of_canTake {s : TradeState} {k : ExecutionKind} (h : s.canTake k = true)
    (i : Nat) : ensureTransition s k i = .ok () := by
  simp [ensureTransition, h]

theorem ensureTransition_of_not_canTake {s : TradeState} {k : ExecutionKind}
    (h : s.canTake k = false) (i : Nat) :
    ensureTransition s k i = .error (.invalidTransition i s k) := by
  simp [ensureTransition, h]

@[simp] theorem replay_nil (s : TradeState) (i : Nat) : replay s i [] = .ok s := rfl

theorem replay_cons_of_canTake {s : TradeState} {k : ExecutionKind} (h : s.canTake k = true)
    (i : Nat) (ks : List ExecutionKind) : replay s i (k :: ks) = replay (s.apply k) (i + 1) ks := by
  simp [replay, ensureTransition_of_canTake h, bind, Except.bind]

theorem replay_cons_of_not_canTake {s : TradeState} {k : ExecutionKind} (h : s.canTake k = false)
    (i : Nat) (ks : List ExecutionKind) :
    replay s i (k :: ks) = .error (.invalidTransition i s k) := by
  simp [replay, ensureTransition_of_not_canTake h, bind, Except.bind]

/-- A replay goes through a word's parts one after the other; the second starts at the
position after the first. -/
theorem replay_append (s : TradeState) (i : Nat) (ks ks' : List ExecutionKind) :
    replay s i (ks ++ ks') = (replay s i ks).bind fun s' => replay s' (i + ks.length) ks' := by
  induction ks generalizing s i with
  | nil => rfl
  | cons k ks ih =>
    cases h : s.canTake k
    · simp [replay_cons_of_not_canTake h, Except.bind]
    · simp only [List.cons_append, replay_cons_of_canTake h, ih, List.length_cons]
      congr 2
      funext s'
      congr 1
      omega

theorem replay_partials {s : TradeState} (hs : s = .opened ∨ s = .partiallyClosed) (i n : Nat) :
    replay s i (List.replicate n .partialClose) =
      .ok (if n = 0 then s else .partiallyClosed) := by
  induction n generalizing s i with
  | zero => simp
  | succ n ih =>
    have hk : s.canTake .partialClose = true := by rcases hs with rfl | rfl <;> rfl
    rw [List.replicate_succ, replay_cons_of_canTake hk, apply_partialClose, ih (.inr rfl)]
    split <;> rfl

end TradeState

/-- The kinds a history can show, in time order, with the state each leads to: nothing yet, an
entry, an entry followed by partial closes, and an entry with partial closes ended by a
take-profit, stop-loss or manual close. -/
inductive Course : List ExecutionKind → TradeState → Prop
  | planned : Course [] .planned
  | opened : Course [.entry] .opened
  | partiallyClosed (n : Nat) :
      Course (.entry :: List.replicate (n + 1) .partialClose) .partiallyClosed
  | closed (n : Nat) {c : ExecutionKind} (hc : c.isClosing = true) :
      Course (.entry :: List.replicate n .partialClose ++ [c]) .closed

def IsCoursePrefix (w : List ExecutionKind) : Prop := ∃ v s, Course v s ∧ w <+: v

namespace Course

theorem replay_eq {w : List ExecutionKind} {s : TradeState} (h : Course w s) (i : Nat) :
    TradeState.replay .planned i w = .ok s := by
  cases h with
  | planned => rfl
  | opened => rfl
  | partiallyClosed n =>
    rw [TradeState.replay_cons_of_canTake rfl, TradeState.apply_entry,
      TradeState.replay_partials (.inl rfl)]
    simp
  | closed n hc =>
    rw [List.cons_append, TradeState.replay_cons_of_canTake rfl, TradeState.apply_entry,
      TradeState.replay_append, TradeState.replay_partials (.inl rfl)]
    have hne := TradeState.ne_entry_of_isClosing hc
    split
    · simp [Except.bind, TradeState.replay_cons_of_canTake (s := .opened) (by simpa using hne),
        TradeState.apply_of_isClosing _ hc]
    · simp [Except.bind,
        TradeState.replay_cons_of_canTake (s := .partiallyClosed) (by simpa using hne),
        TradeState.apply_of_isClosing _ hc]

theorem unique {w : List ExecutionKind} {s s' : TradeState} (h : Course w s) (h' : Course w s') :
    s = s' := by
  simpa using (h.replay_eq 0).symm.trans (h'.replay_eq 0)

theorem snoc {w : List ExecutionKind} {s : TradeState} {k : ExecutionKind} (h : Course w s)
    (hk : s.canTake k = true) : Course (w ++ [k]) (s.apply k) := by
  cases h with
  | planned =>
    have : k = .entry := by simpa using hk
    subst this
    exact .opened
  | opened =>
    cases k with
    | entry => simp at hk
    | partialClose => exact .partiallyClosed 0
    | tpHit | slHit | manualClose => exact .closed 0 rfl
  | partiallyClosed n =>
    cases k with
    | entry => simp at hk
    | partialClose => simpa [List.replicate_succ'] using Course.partiallyClosed (n + 1)
    | tpHit | slHit | manualClose => exact .closed (n + 1) rfl
  | closed n hc => simp [TradeState.canTake_of_isTerminal (s := .closed) rfl] at hk

theorem canTake_of_snoc {w : List ExecutionKind} {s s' : TradeState} {k : ExecutionKind}
    (h : Course w s) (h' : Course (w ++ [k]) s') : s.canTake k = true := by
  have hr := h'.replay_eq 0
  rw [TradeState.replay_append, h.replay_eq] at hr
  cases hk : s.canTake k
  · simp [Except.bind, TradeState.replay_cons_of_not_canTake hk] at hr
  · rfl

theorem entry_partials (n : Nat) : ∃ s, Course (.entry :: List.replicate n .partialClose) s := by
  cases n with
  | zero => exact ⟨_, .opened⟩
  | succ n => exact ⟨_, .partiallyClosed n⟩

theorem dropLast {w : List ExecutionKind} {k : ExecutionKind} {s : TradeState}
    (h : Course (w ++ [k]) s) : ∃ s', Course w s' := by
  generalize hw : w ++ [k] = v at h
  cases h with
  | planned => simp at hw
  | opened =>
    obtain ⟨rfl, -⟩ := List.append_inj' (hw.trans (List.nil_append [ExecutionKind.entry]).symm) rfl
    exact ⟨_, .planned⟩
  | partiallyClosed n =>
    rw [List.replicate_succ', ← List.cons_append] at hw
    obtain ⟨rfl, -⟩ := List.append_inj' hw rfl
    exact entry_partials n
  | closed n hc =>
    obtain ⟨rfl, -⟩ := List.append_inj' hw rfl
    exact entry_partials n

theorem of_prefix {v w : List ExecutionKind} {s : TradeState} (h : Course w s) (hv : v <+: w) :
    ∃ s', Course v s' := by
  obtain ⟨t, rfl⟩ := hv
  induction t using List.reverseRecOn generalizing s with
  | nil => exact ⟨s, by simpa using h⟩
  | append_singleton t k ih =>
    obtain ⟨s', h'⟩ := dropLast (w := v ++ t) (by simpa using h)
    exact ih h'

end Course

theorem isCoursePrefix_iff {w : List ExecutionKind} : IsCoursePrefix w ↔ ∃ s, Course w s :=
  ⟨fun ⟨_, _, hv, hw⟩ => hv.of_prefix hw, fun ⟨s, h⟩ => ⟨w, s, h, List.prefix_refl w⟩⟩

theorem replay_planned_eq_ok_iff (K : List ExecutionKind) (s : TradeState) :
    TradeState.replay .planned 0 K = .ok s ↔ Course K s := by
  refine ⟨fun h => ?_, fun h => h.replay_eq 0⟩
  induction K using List.reverseRecOn generalizing s with
  | nil =>
    cases h
    exact .planned
  | append_singleton K k ih =>
    rw [TradeState.replay_append] at h
    cases hK : TradeState.replay .planned 0 K with
    | error e => simp [hK, Except.bind] at h
    | ok s' =>
      simp only [hK, Except.bind] at h
      cases hk : s'.canTake k
      · simp [TradeState.replay_cons_of_not_canTake hk] at h
      · rw [TradeState.replay_cons_of_canTake hk] at h
        cases h
        exact (ih s' hK).snoc hk

/-- Off the courses, the replay from `planned` stops at the first kind that leaves them: at the
length of the longest prefix that begins a course, in the state of that prefix. -/
theorem replay_planned_stop (K : List ExecutionKind) (hK : ¬ ∃ s, Course K s) :
    ∃ i s, ∃ hi : i < K.length, Course (K.take i) s ∧
      (∀ j ≤ K.length, IsCoursePrefix (K.take j) → j ≤ i) ∧
      TradeState.replay .planned 0 K = .error (.invalidTransition i s K[i]) := by
  induction K using List.reverseRecOn with
  | nil => exact absurd ⟨_, .planned⟩ hK
  | append_singleton K k ih =>
    have hlast : ∀ j ≤ (K ++ [k]).length, IsCoursePrefix ((K ++ [k]).take j) → j ≤ K.length := by
      intro j hj hp
      by_contra hlt
      have : j = K.length + 1 := by simp at hj; omega
      subst this
      rw [List.take_of_length_le (by simp)] at hp
      exact hK (isCoursePrefix_iff.1 hp)
    by_cases hc : ∃ s, Course K s
    · obtain ⟨s, hs⟩ := hc
      have hk : s.canTake k = false := by
        cases h : s.canTake k
        · rfl
        · exact absurd ⟨_, hs.snoc h⟩ hK
      refine ⟨K.length, s, by simp, by simpa using hs, hlast, ?_⟩
      rw [TradeState.replay_append, hs.replay_eq]
      simp [Except.bind, TradeState.replay_cons_of_not_canTake hk]
    · obtain ⟨i, s, hi, hs, hmax, hr⟩ := ih hc
      refine ⟨i, s, by simp; omega, by rwa [List.take_append_of_le_length hi.le], ?_, ?_⟩
      · intro j hj hp
        have hjK := hlast j hj hp
        exact hmax j hjK (by rwa [List.take_append_of_le_length hjK] at hp)
      · rw [TradeState.replay_append, hr]
        simp [Except.bind, List.getElem_append_left hi]

namespace TradeState

theorem derive_some (m : TerminalMarker) (h : List Execution) :
    derive (some m) h = .ok (ofMarker m) := rfl

theorem derive_none_eq_replay {h l : List Execution} (hl : Execution.StableTimeSort h l) :
    derive none h = replay .planned 0 (l.map (·.kind)) := by
  rw [derive, Execution.kindsByTime, Execution.sortByTime_eq_of_stable hl]

/-- The state derived from a history, from its marker and its kinds in time order. A marker
decides alone. Otherwise let `K` be the kinds after a stable sort by time: the derivation
succeeds exactly when `K` is a course, with the course's state; and when it is none, the
derivation fails at the first kind that leaves the courses, naming as position the length of
the longest prefix of `K` that begins a course and as state that prefix's state. -/
theorem derive_eq_course (h l : List Execution) (hl : Execution.StableTimeSort h l) :
    (∀ m, derive (some m) h = .ok (ofMarker m)) ∧
    (∀ s, derive none h = .ok s ↔ Course (l.map (·.kind)) s) ∧
    ((¬ ∃ s, Course (l.map (·.kind)) s) →
      ∃ i s, ∃ hi : i < (l.map (·.kind)).length, Course ((l.map (·.kind)).take i) s ∧
        (∀ j ≤ (l.map (·.kind)).length, IsCoursePrefix ((l.map (·.kind)).take j) → j ≤ i) ∧
        derive none h = .error (.invalidTransition i s (l.map (·.kind))[i])) := by
  refine ⟨fun m => derive_some m h, fun s => ?_, fun hK => ?_⟩
  · rw [derive_none_eq_replay hl]
    exact replay_planned_eq_ok_iff _ s
  · rw [derive_none_eq_replay hl]
    exact replay_planned_stop _ hK

/-- A partial close given before an entry of the same instant, and a second entry at that
instant: in time order the tie keeps the given order, so the history reads entry, partial close,
entry. -/
theorem derive_eq_course_tied :
    let fill (k : ExecutionKind) (t : Instant) : Execution :=
      ⟨Uuid.nil, Uuid.nil, k, Decimal.zero, Decimal.zero, none, none, t, none⟩
    let h := [fill .partialClose (Instant.epoch.addSeconds 60), fill .entry Instant.epoch,
      fill .entry (Instant.epoch.addSeconds 60)]
    Execution.StableTimeSort h (Execution.sortByTime h) ∧
    ((∀ m, derive (some m) h = .ok (ofMarker m)) ∧
    (∀ s, derive none h = .ok s ↔ Course ((Execution.sortByTime h).map (·.kind)) s) ∧
    ((¬ ∃ s, Course ((Execution.sortByTime h).map (·.kind)) s) →
      ∃ i s, ∃ hi : i < ((Execution.sortByTime h).map (·.kind)).length,
        Course (((Execution.sortByTime h).map (·.kind)).take i) s ∧
        (∀ j ≤ ((Execution.sortByTime h).map (·.kind)).length,
          IsCoursePrefix (((Execution.sortByTime h).map (·.kind)).take j) → j ≤ i) ∧
        derive none h = .error (.invalidTransition i s ((Execution.sortByTime h).map (·.kind))[i]))) :=
  ⟨Execution.sortByTime_stable _, derive_eq_course _ _ (Execution.sortByTime_stable _)⟩

end TradeState

end ForexJournal
