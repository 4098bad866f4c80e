import Mathlib
import ForexJournal.Signal.Evaluation

/-!
# Evaluating rules by code

Results are kept in a list keyed by rule code, in increasing order of code: a result is put under
its code, in place of an earlier one there. A list whose keys increase strictly is determined by
its lookups (`eq_of_sorted_of_lookup_eq`). Evaluating a list of codes puts under each code that
occurs in it and names a rule that rule's result, and nothing under any other key
(`lookup_evaluateRules`). So the evaluation depends only on which rules the codes name: not on
their order, on repeated codes or on codes that name no rule.

Main statement: `evaluateRules_registered_codes`.
-/

namespace ForexJournal

/-! ## Lists keyed by strictly increasing codes -/

section KeyedLists

variable {β : Type}

theorem lookup_cons_of_ne {l : List (String × β)} {k k' : String} {v : β} (h : k ≠ k') :
    ((k', v) :: l).lookup k = l.lookup k := by
  have hb : (k == k') = false := by simpa using h
  rw [List.lookup_cons, hb]

theorem lookup_eq_none_of_lt {l : List (String × β)} {k : String} (h : ∀ p ∈ l, k < p.1) :
    l.lookup k = none :=
  List.lookup_eq_none_iff.2 fun p hp => by simpa using (h p hp).ne

/-- A key below the first key of a list sorted by key is found in a list that starts with it,
and not in the sorted one. -/
theorem lookup_ne_of_lt_head {a b : String} {w w' : β} {m m' : List (String × β)}
    (hm' : ∀ p ∈ m', b < p.1) (hab : a < b) :
    ((a, w) :: m).lookup a ≠ ((b, w') :: m').lookup a := by
  rw [List.lookup_cons_self, lookup_eq_none_of_lt fun p hp => ?_]
  · simp
  · rcases List.mem_cons.1 hp with rfl | hp
    · exact hab
    · exact hab.trans (hm' p hp)

/-- Lists whose keys increase strictly are determined by their lookups. -/
theorem eq_of_sorted_of_lookup_eq {l₁ l₂ : List (String × β)}
    (h₁ : l₁.Pairwise fun a b => a.1 < b.1) (h₂ : l₂.Pairwise fun a b => a.1 < b.1)
    (h : ∀ k, l₁.lookup k = l₂.lookup k) : l₁ = l₂ := by
  induction l₁ generalizing l₂ with
  | nil =>
    cases l₂ with
    | nil => rfl
    | cons p l₂ =>
      obtain ⟨k, v⟩ := p
      simpa using h k
  | cons p l₁ ih =>
    obtain ⟨k, v⟩ := p
    cases l₂ with
    | nil => simpa using h k
    | cons p' l₂ =>
      obtain ⟨k', v'⟩ := p'
      rw [List.pairwise_cons] at h₁ h₂
      have hkey : k = k' := by
        rcases lt_trichotomy k k' with hlt | heq | hgt
        · exact absurd (h k) (lookup_ne_of_lt_head h₂.1 hlt)
        · exact heq
        · exact absurd (h k').symm (lookup_ne_of_lt_head h₁.1 hgt)
      subst hkey
      have hv : v = v' := by simpa using h k
      subst hv
      rw [ih h₁.2 h₂.2 fun k'' => ?_]
      by_cases hk : k'' = k
      · subst hk
        rw [lookup_eq_none_of_lt h₁.1, lookup_eq_none_of_lt h₂.1]
      · simpa [lookup_cons_of_ne hk] using h k''

end KeyedLists

/-! ## Putting a result under its code -/

section Insert

variable (key : String) (r : RuleResult)

theorem lookup_insertResult (rs : RuleResults) (k : String) :
    (insertResult key r rs).lookup k = if k = key then some r else rs.lookup k := by
  induction rs with
  | nil => by_cases hk : k = key <;> simp [insertResult, hk, lookup_cons_of_ne]
  | cons p rs ih =>
    obtain ⟨k', v⟩ := p
    unfold insertResult
    by_cases hk : k = key <;> by_cases hk' : k = k' <;> split_ifs <;>
      simp_all [lookup_cons_of_ne]

theorem mem_insertResult {rs : RuleResults} {p : String × RuleResult}
    (hp : p ∈ insertResult key r rs) : p.1 = key ∨ p ∈ rs := by
  induction rs with
  | nil => simp_all [insertResult]
  | cons q rs ih =>
    unfold insertResult at hp
    split_ifs at hp <;> simp only [List.mem_cons] at hp ⊢
    · rcases hp with rfl | hp <;> simp_all
    · rcases hp with rfl | rfl | hp <;> simp_all
    · rcases hp with rfl | hp
      · exact .inr (.inl rfl)
      · rcases ih hp with h | h <;> simp_all

theorem insertResult_sorted {rs : RuleResults} (h : rs.Pairwise fun a b => a.1 < b.1) :
    (insertResult key r rs).Pairwise fun a b => a.1 < b.1 := by
  induction rs with
  | nil => simp [insertResult]
  | cons q rs ih =>
    obtain ⟨k', v⟩ := q
    rw [List.pairwise_cons] at h
    unfold insertResult
    split_ifs with heq hlt
    · subst heq
      exact List.pairwise_cons.2 ⟨h.1, h.2⟩
    · refine List.pairwise_cons.2 ⟨fun p hp => ?_, List.pairwise_cons.2 h⟩
      rcases List.mem_cons.1 hp with rfl | hp
      · exact hlt
      · exact hlt.trans (h.1 p hp)
    · have hgt : k' < key := lt_of_le_of_ne (not_lt.1 hlt) (Ne.symm heq)
      refine List.pairwise_cons.2 ⟨fun p hp => ?_, ih h.2⟩
      rcases mem_insertResult key r hp with hk | hp
      · rw [hk]; exact hgt
      · exact h.1 p hp

end Insert

/-! ## Evaluating a list of codes -/

theorem code_of_ruleByCode {code : String} {rule : RuleSpec} (h : ruleByCode code = .ok rule) :
    rule ∈ rules ∧ rule.code = code := by
  unfold ruleByCode at h
  split at h
  · rename_i r hr
    cases h
    exact ⟨List.mem_of_find?_eq_some hr, by simpa using List.find?_some hr⟩
  · cases h

/-- A code names a rule exactly when it is the code of a rule of the registry; otherwise it is
an unknown rule. -/
theorem ruleByCode_of_not_mem {code : String} (h : code ∉ rules.map (·.code)) :
    ruleByCode code = .error (.unknownRule code) := by
  unfold ruleByCode
  split
  · rename_i r hr
    exact absurd (List.mem_map.2 ⟨r, List.mem_of_find?_eq_some hr, by simpa using List.find?_some hr⟩) h
  · rfl

/-- One code's turn in evaluating a list of codes: the result of the rule it names is put under
the rule's code, and a code that names no rule is skipped. -/
def addRuleResult (i : EvaluationInput) (acc : RuleResults) (code : String) : RuleResults :=
  match ruleByCode code with
  | .ok rule => insertResult rule.code (evaluateRule rule i) acc
  | .error _ => acc

theorem evaluateRules_eq_foldl (codes : List String) (i : EvaluationInput) :
    evaluateRules codes i = codes.foldl (addRuleResult i) [] := rfl

/-- The result a code's rule gives, if the code names one. -/
def namedResult (i : EvaluationInput) (code : String) : Option RuleResult :=
  (ruleByCode code).toOption.map (evaluateRule · i)

theorem lookup_addRuleResult (i : EvaluationInput) (acc : RuleResults) (code k : String) :
    (addRuleResult i acc code).lookup k =
      (if k = code then namedResult i k else none).or (acc.lookup k) := by
  unfold addRuleResult namedResult
  split
  · rename_i rule hrule
    rw [lookup_insertResult, (code_of_ruleByCode hrule).2]
    by_cases hk : k = code
    · subst hk
      simp [hrule, Except.toOption]
    · simp [hk]
  · rename_i e hrule
    by_cases hk : k = code
    · subst hk
      simp [hrule, Except.toOption]
    · simp [hk]

theorem addRuleResult_sorted (i : EvaluationInput) {acc : RuleResults} (code : String)
    (h : acc.Pairwise fun a b => a.1 < b.1) :
    (addRuleResult i acc code).Pairwise fun a b => a.1 < b.1 := by
  unfold addRuleResult
  split
  · exact insertResult_sorted _ _ h
  · exact h

/-- Evaluating codes one by one onto a list sorted by key keeps it sorted, and puts under each
code that occurs and names a rule that rule's result, in front of what was there. -/
theorem foldl_addRuleResult (i : EvaluationInput) (codes : List String) {acc : RuleResults}
    (h : acc.Pairwise fun a b => a.1 < b.1) :
    (codes.foldl (addRuleResult i) acc).Pairwise (fun a b => a.1 < b.1) ∧
      ∀ k, (codes.foldl (addRuleResult i) acc).lookup k =
        (if k ∈ codes then namedResult i k else none).or (acc.lookup k) := by
  induction codes generalizing acc with
  | nil => exact ⟨h, fun k => by simp⟩
  | cons code codes ih =>
    obtain ⟨hsorted, hlookup⟩ := ih (addRuleResult_sorted i code h)
    refine ⟨hsorted, fun k => ?_⟩
    rw [List.foldl_cons, hlookup, lookup_addRuleResult]
    by_cases hk : k = code <;> by_cases hks : k ∈ codes <;> cases namedResult i k <;> simp_all

theorem lookup_evaluateRules (codes : List String) (i : EvaluationInput) (k : String) :
    (evaluateRules codes i).lookup k = if k ∈ codes then namedResult i k else none := by
  rw [evaluateRules_eq_foldl, (foldl_addRuleResult i codes List.Pairwise.nil).2 k, List.lookup_nil,
    Option.or_none]

theorem evaluateRules_sorted (codes : List String) (i : EvaluationInput) :
    (evaluateRules codes i).Pairwise fun a b => a.1 < b.1 :=
  (foldl_addRuleResult i codes List.Pairwise.nil).1

theorem evaluateRules_congr {codes codes' : List String} (i : EvaluationInput)
    (h : ∀ r ∈ rules, r.code ∈ codes' ↔ r.code ∈ codes) :
    evaluateRules codes' i = evaluateRules codes i := by
  refine eq_of_sorted_of_lookup_eq (evaluateRules_sorted codes' i) (evaluateRules_sorted codes i)
    fun k => ?_
  rw [lookup_evaluateRules, lookup_evaluateRules]
  cases hk : ruleByCode k with
  | error e => simp [namedResult, hk, Except.toOption]
  | ok rule =>
    obtain ⟨hmem, hcode⟩ := code_of_ruleByCode hk
    rw [← hcode]
    exact if_congr (h rule hmem) rfl rfl

theorem ruleByCode_of_mem {code : String} (h : code ∈ rules.map (·.code)) :
    ∃ rule, ruleByCode code = .ok rule := by
  unfold ruleByCode
  split
  · exact ⟨_, rfl⟩
  · rename_i hnone
    obtain ⟨r, hr, rfl⟩ := List.mem_map.1 h
    exact absurd (List.find?_eq_none.1 hnone r hr) (by simp)

theorem evaluateRuleByCode_of_ruleByCode {code : String} {rule : RuleSpec} (i : EvaluationInput)
    (h : ruleByCode code = .ok rule) : evaluateRuleByCode code i = .ok (evaluateRule rule i) := by
  simp [evaluateRuleByCode, h, bind, Except.bind, pure, Except.pure]

/-- Evaluating a list of codes gives under each code that occurs in it and names a rule of the
registry that rule's result, and nothing under any other key, the keys increasing. So the
result depends only on which rules the codes name: permuting the codes, repeating some or adding
codes that name no rule changes nothing. A code of the registry evaluated alone gives the result
stored under it in the evaluation of that one code; any other code is an unknown rule. -/
theorem evaluateRules_registered_codes (codes : List String) (i : EvaluationInput) :
    (∀ k, (evaluateRules codes i).lookup k =
      if k ∈ codes then (ruleByCode k).toOption.map (evaluateRule · i) else none) ∧
    (evaluateRules codes i).Pairwise (fun a b => a.1 < b.1) ∧
    (∀ codes', (∀ r ∈ rules, r.code ∈ codes' ↔ r.code ∈ codes) →
      evaluateRules codes' i = evaluateRules codes i) ∧
    (∀ c ∈ rules.map (·.code),
      ∃ r, (evaluateRules [c] i).lookup c = some r ∧ evaluateRuleByCode c i = .ok r) ∧
    (∀ c, c ∉ rules.map (·.code) → evaluateRuleByCode c i = .error (.unknownRule c)) := by
  refine ⟨lookup_evaluateRules codes i, evaluateRules_sorted codes i,
    fun codes' h => evaluateRules_congr i h, fun c hc => ?_, fun c hc => ?_⟩
  · obtain ⟨rule, hrule⟩ := ruleByCode_of_mem hc
    refine ⟨evaluateRule rule i, ?_, evaluateRuleByCode_of_ruleByCode i hrule⟩
    simp [lookup_evaluateRules, namedResult, hrule, Except.toOption]
  · simp [evaluateRuleByCode, ruleByCode_of_not_mem hc, bind, Except.bind]

end ForexJournal
