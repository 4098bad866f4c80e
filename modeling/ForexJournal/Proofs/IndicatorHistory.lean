import Mathlib
import ForexJournal.Proofs.NoOverflow
import ForexJournal.Proofs.SwingPoints

/-!
# The indicators of a history

The forward pass feeds each candle to three averages and the swing tracker in one loop. It is
the same as running each of them over the whole history on its own and reading their outputs at
each candle (`IndicatorPass.run_eq_components`): rounding the averages for output never feeds
back into them. On consistent candles none of them fails, so the indicators of a history are
one per candle, with the candle's geometry, the averages of the closes up to it rounded to eight
places, and the last swing high and swing low confirmed by it (`computeIndicators_eq`).
-/

namespace ForexJournal

theorem Ema.run_cons_eq_ok {e last : Ema} {c : Decimal} {cs : List Decimal}
    {vs : List (Option Decimal)} (h : e.run (c :: cs) = .ok (vs, last)) :
    ∃ e' vs', e.step c = .ok e' ∧ e'.run cs = .ok (vs', last) ∧ vs = e'.value :: vs' := by
  simp only [Ema.run, bind, Except.bind] at h
  split at h
  · cases h
  · rename_i e' he
    split at h
    · cases h
    · rename_i r hr
      obtain ⟨vs', last'⟩ := r
      cases h
      exact ⟨e', vs', he, hr, rfl⟩

namespace IndicatorPass

theorem step_eq_ok {p : IndicatorPass} {c : Candle} {f m s : Ema} {g : Indicators}
    (hf : p.fast.step c.close = .ok f) (hm : p.mid.step c.close = .ok m)
    (hs : p.slow.step c.close = .ok s) (hg : Indicators.ofCandle c = .ok g) :
    p.step c = .ok ({ g with
        ema20 := f.value.map (·.roundDp emaPlaces), ema50 := m.value.map (·.roundDp emaPlaces),
        ema200 := s.value.map (·.roundDp emaPlaces),
        lastSwingHigh := (p.swings.step c.high c.low).lastHigh,
        lastSwingLow := (p.swings.step c.high c.low).lastLow },
      ⟨f, m, s, p.swings.step c.high c.low⟩) := by
  simp only [step, hf, hm, hs, hg, bind, Except.bind, pure, Except.pure]

/-- The pass is its four components run side by side: at each candle it reports the candle's
geometry, the value of each average after that candle's close, rounded, and the swings the
tracker reports after that candle's bar. -/
theorem run_eq_components {p : IndicatorPass} {cs : List Candle}
    {F M S : List (Option Decimal)} {lf lm ls : Ema}
    (hf : p.fast.run (cs.map (·.close)) = .ok (F, lf))
    (hm : p.mid.run (cs.map (·.close)) = .ok (M, lm))
    (hs : p.slow.run (cs.map (·.close)) = .ok (S, ls))
    (hg : ∀ c ∈ cs, ∃ g, Indicators.ofCandle c = .ok g) :
    ∃ out, p.run cs = .ok out ∧ out.length = cs.length ∧
      ∀ i (hi : i < cs.length), ∃ g, Indicators.ofCandle cs[i] = .ok g ∧
        out[i]? = some { g with
          ema20 := (F.getD i none).map (·.roundDp emaPlaces),
          ema50 := (M.getD i none).map (·.roundDp emaPlaces),
          ema200 := (S.getD i none).map (·.roundDp emaPlaces),
          lastSwingHigh := ((p.swings.run (cs.map fun c => (c.high, c.low))).getD i
            (none, none)).1,
          lastSwingLow := ((p.swings.run (cs.map fun c => (c.high, c.low))).getD i
            (none, none)).2 } := by
  induction cs generalizing p F M S with
  | nil => exact ⟨[], rfl, rfl, fun i hi => absurd hi (Nat.not_lt_zero i)⟩
  | cons c cs ih =>
    obtain ⟨f, F', hfs, hfr, rfl⟩ := Ema.run_cons_eq_ok hf
    obtain ⟨m, M', hms, hmr, rfl⟩ := Ema.run_cons_eq_ok hm
    obtain ⟨s, S', hss, hsr, rfl⟩ := Ema.run_cons_eq_ok hs
    obtain ⟨g, hgc⟩ := hg c List.mem_cons_self
    obtain ⟨out, hout, hlen, hitems⟩ := ih (p := ⟨f, m, s, p.swings.step c.high c.low⟩)
      hfr hmr hsr fun c' hc' => hg c' (List.mem_cons_of_mem c hc')
    simp only [run, step_eq_ok hfs hms hss hgc, hout, bind, Except.bind, pure, Except.pure]
    refine ⟨_, rfl, by simp [hlen], fun i hi => ?_⟩
    cases i with
    | zero => exact ⟨g, hgc, rfl⟩
    | succ j =>
      obtain ⟨g', hg', hj⟩ := hitems j (by simpa using hi)
      exact ⟨g', hg', by simpa [SwingTracker.run] using hj⟩

end IndicatorPass

/-- The indicators of a history of consistent candles: one per candle, in order, each with the
candle's geometry, the averages over 20, 50 and 200 closes as of that candle rounded to eight
places, and the last swing high and swing low confirmed by it. -/
theorem computeIndicators_eq (cs : List Candle) (hv : ∀ c ∈ cs, c.validate = .ok ()) :
    ∃ fast mid slow out,
      Ema.series (cs.map (·.close)) emaFast = .ok fast ∧
      Ema.series (cs.map (·.close)) emaMid = .ok mid ∧
      Ema.series (cs.map (·.close)) emaSlow = .ok slow ∧
      computeIndicators cs = .ok out ∧ out.length = cs.length ∧
      ∀ i (hi : i < cs.length), ∃ g, Indicators.ofCandle cs[i] = .ok g ∧
        out[i]? = some { g with
          ema20 := (fast.getD i none).map (·.roundDp emaPlaces),
          ema50 := (mid.getD i none).map (·.roundDp emaPlaces),
          ema200 := (slow.getD i none).map (·.roundDp emaPlaces),
          lastSwingHigh := lastSwingHigh (cs.map (·.high)) i,
          lastSwingLow := lastSwingLow (cs.map (·.low)) i } := by
  have hord : ∀ c ∈ cs, c.Ordered := fun c hc => Candle.ordered_of_validate (hv c hc)
  have hcl : ∀ x ∈ cs.map (·.close), 0 ≤ x.val := by
    simp only [List.mem_map]
    rintro x ⟨c, hc, rfl⟩
    exact (hord c hc).close_nonneg
  obtain ⟨F, lf, hf⟩ := Ema.sane_new_fast.run hcl
  obtain ⟨M, lm, hm⟩ := Ema.sane_new_mid.run hcl
  obtain ⟨S, ls, hs⟩ := Ema.sane_new_slow.run hcl
  have hg : ∀ c ∈ cs, ∃ g, Indicators.ofCandle c = .ok g := fun c hc => by
    obtain ⟨geo, hgeo⟩ := Candle.geometry_isOk (hord c hc)
    simp only [Indicators.ofCandle, hgeo, bind, Except.bind, pure, Except.pure]
    exact ⟨_, rfl⟩
  obtain ⟨out, hout, hlen, hitems⟩ :=
    IndicatorPass.run_eq_components (p := IndicatorPass.start) hf hm hs hg
  refine ⟨F, M, S, out,
    by simp [@Ema.series_eq_run emaFast (by decide), hf, Functor.map, Except.map],
    by simp [@Ema.series_eq_run emaMid (by decide), hm, Functor.map, Except.map],
    by simp [@Ema.series_eq_run emaSlow (by decide), hs, Functor.map, Except.map], hout, hlen, fun i hi => ?_⟩
  obtain ⟨g, hg', hi'⟩ := hitems i hi
  refine ⟨g, hg', ?_⟩
  rw [hi']
  simp [IndicatorPass.start, SwingTracker.run_empty, hi, List.getD_eq_getElem?_getD,
    Function.comp_def]

/-- Five consistent bars at two places whose middle one has the highest high. -/
def peakBars : List Candle :=
  [(110, 112, 108, 111), (111, 115, 110, 114), (114, 120, 113, 118), (118, 119, 112, 113),
    (113, 114, 109, 110)].map fun (o, h, l, c) => { (default : Candle) with
      openPrice := .ofMantissa o 2, high := .ofMantissa h 2, low := .ofMantissa l 2,
      close := .ofMantissa c 2 }

/-- Over `peakBars` the pass gives five indicators, and the fifth carries the middle bar's high
as the last swing high. -/
theorem computeIndicators_eq_on_peak :
    (∀ c ∈ peakBars, c.validate = .ok ()) ∧ ∃ out, computeIndicators peakBars = .ok out ∧
      out.length = 5 ∧ out[4]?.map (·.lastSwingHigh) = some (some (.ofMantissa 120 2)) := by
  have hv : ∀ c ∈ peakBars, c.validate = .ok () := by decide +kernel
  obtain ⟨_, _, _, out, -, -, -, hout, hlen, hitems⟩ := computeIndicators_eq peakBars hv
  obtain ⟨g, -, h4⟩ := hitems 4 (by decide +kernel)
  refine ⟨hv, out, hout, hlen, ?_⟩
  rw [h4, Option.map_some]
  dsimp only
  decide +kernel

end ForexJournal
