import Exetron.Customization.Service
import Exetron.Lib.Trace

/-!
# Rules in scope

The rules that an evaluation is meant to apply are those of its channel, store and point. The query
for an evaluation without a store leaves the channel out.
-/

namespace Exetron.Customization

open Lib List

def InScope (tenantId : Id) (input : CustomizationEvaluationInput) (rule : CustomizationRule) :
    Prop :=
  rule.tenantId = tenantId ∧ rule.status = .active ∧
    (rule.channel = none ∨ rule.channel = some input.channel) ∧
    (rule.storeId = none ∨ rule.storeId = input.storeId) ∧
    (rule.pointKey = none ∨ rule.pointKey = input.pointKey)

instance (tenantId : Id) (input : CustomizationEvaluationInput) (rule : CustomizationRule) :
    Decidable (InScope tenantId input rule) :=
  inferInstanceAs (Decidable (_ ∧ _))

def scopedEvaluation (env : CustomizationEnv) (tenantId : Id) (input : CustomizationEvaluationInput)
    (db : CustomizationDb) : CustomizationEvaluation :=
  evaluationOf tenantId input
    (((orderedRules db).filter fun rule => InScope tenantId input rule).foldl (applyRule env input)
      ⟨baseState tenantId input db, []⟩)

def AppliesScope (env : CustomizationEnv) (context : RequestContext)
    (input : CustomizationEvaluationInput) (db : CustomizationDb) : Prop :=
  ∀ tenantId, admitEvaluation context input = .ok tenantId →
    resolveEffectiveCustomization env context input db =
      .ok (scopedEvaluation env tenantId input db)

def ForeignChannel (input : CustomizationEvaluationInput) (rule : CustomizationRule) : Prop :=
  rule.channel ≠ none ∧ rule.channel ≠ some input.channel

instance (input : CustomizationEvaluationInput) (rule : CustomizationRule) :
    Decidable (ForeignChannel input rule) :=
  inferInstanceAs (Decidable (_ ∧ _))

def applyOwn (env : CustomizationEnv) (input : CustomizationEvaluationInput) (progress : Progress)
    (rule : CustomizationRule) : Progress :=
  if ForeignChannel input rule then progress else applyRule env input progress rule

/-- A store is asked for, or the conditions of no rule of another channel hold when it would be its
turn. -/
def ForeignChannelsIdle (env : CustomizationEnv) (context : RequestContext)
    (input : CustomizationEvaluationInput) (db : CustomizationDb) : Prop :=
  ∀ tenantId, admitEvaluation context input = .ok tenantId → input.storeId = none →
    Trace.Along (applyOwn env input)
      (fun progress rule =>
        ForeignChannel input rule → ruleMatches env input progress.state rule = false)
      ⟨baseState tenantId input db, []⟩ (findRules tenantId input db)

section
variable {env : CustomizationEnv} {input : CustomizationEvaluationInput} {tenantId : Id}
  {rules : List CustomizationRule} {progress : Progress}

theorem foldl_applyOwn (env : CustomizationEnv) (input : CustomizationEvaluationInput)
    (rules : List CustomizationRule) (progress : Progress) :
    rules.foldl (applyOwn env input) progress =
      (rules.filter fun rule => ¬ForeignChannel input rule).foldl (applyRule env input)
        progress := by
  induction rules generalizing progress with
  | nil => rfl
  | cons rule rules ih =>
    rw [foldl_cons, ih]
    by_cases foreign : ForeignChannel input rule
    · rw [applyOwn, if_pos foreign, filter_cons_of_neg (by simpa using foreign)]
    · rw [applyOwn, if_neg foreign, filter_cons_of_pos (by simpa using foreign), foldl_cons]

theorem applied_subset (progress : Progress) :
    ∀ applied ∈ (rules.foldl (applyOwn env input) progress).appliedRules,
      applied ∈ progress.appliedRules ∨
        ∃ rule ∈ rules, ¬ForeignChannel input rule ∧ applied.id = rule.id := by
  induction rules generalizing progress with
  | nil => exact fun _ listed => .inl listed
  | cons rule rules ih =>
    intro applied listed
    rcases ih _ applied listed with before | ⟨later, there, own, same⟩
    · by_cases foreign : ForeignChannel input rule
      · rw [applyOwn, if_pos foreign] at before
        exact .inl before
      · rw [applyOwn, if_neg foreign, applyRule] at before
        split at before
        · rcases mem_append.mp before with old | new
          · exact .inl old
          · rw [mem_singleton.mp new]
            exact .inr ⟨rule, mem_cons_self, foreign, rfl⟩
        · exact .inl before
    · exact .inr ⟨later, mem_cons_of_mem _ there, own, same⟩

theorem applied_kept (progress : Progress) {applied : AppliedRule}
    (listed : applied ∈ progress.appliedRules) :
    applied ∈ (rules.foldl (applyRule env input) progress).appliedRules := by
  induction rules generalizing progress with
  | nil => exact listed
  | cons rule rules ih =>
    rw [foldl_cons]
    refine ih (applyRule env input progress rule) ?_
    unfold applyRule
    split
    · exact mem_append_left _ listed
    · exact listed

theorem foldl_of_idle (idle : Trace.Along (applyOwn env input) (fun progress rule =>
      ForeignChannel input rule → ruleMatches env input progress.state rule = false) progress
      rules) :
    rules.foldl (applyRule env input) progress = rules.foldl (applyOwn env input) progress := by
  induction rules generalizing progress with
  | nil => rfl
  | cons rule rules ih =>
    obtain ⟨first, rest⟩ := idle
    have same : applyRule env input progress rule = applyOwn env input progress rule := by
      by_cases foreign : ForeignChannel input rule
      · rw [applyOwn, if_pos foreign, applyRule, first foreign]
        rfl
      · rw [applyOwn, if_neg foreign]
    rw [foldl_cons, foldl_cons, same]
    exact ih rest

theorem idle_of_foldl (distinct : (rules.map CustomizationRule.id).Nodup)
    (new : ∀ applied ∈ progress.appliedRules, ∀ rule ∈ rules, applied.id ≠ rule.id)
    (same : (rules.foldl (applyRule env input) progress).appliedRules =
      (rules.foldl (applyOwn env input) progress).appliedRules) :
    Trace.Along (applyOwn env input) (fun progress rule =>
      ForeignChannel input rule → ruleMatches env input progress.state rule = false) progress
      rules := by
  induction rules generalizing progress with
  | nil => trivial
  | cons rule rules ih =>
    rw [map_cons, nodup_cons] at distinct
    have first : ForeignChannel input rule → ruleMatches env input progress.state rule = false := by
      intro foreign
      by_contra matched
      rw [Bool.not_eq_false] at matched
      have recorded : ⟨rule.id, rule.key, rule.description, rule.priority⟩ ∈
          ((rule :: rules).foldl (applyRule env input) progress).appliedRules := by
        rw [foldl_cons]
        refine applied_kept (applyRule env input progress rule) ?_
        rw [applyRule, if_pos matched]
        exact mem_append_right _ (mem_singleton.mpr rfl)
      rw [same] at recorded
      rcases applied_subset _ _ recorded with before | ⟨other, listed, own, key⟩
      · exact new _ before rule mem_cons_self rfl
      · rcases mem_cons.mp listed with rfl | later
        · exact own foreign
        · exact distinct.1 (mem_map.mpr ⟨other, later, key.symm⟩)
    have step : applyRule env input progress rule = applyOwn env input progress rule := by
      by_cases foreign : ForeignChannel input rule
      · rw [applyOwn, if_pos foreign, applyRule, first foreign]
        rfl
      · rw [applyOwn, if_neg foreign]
    refine ⟨first, ih distinct.2 (fun applied listed later there => ?_) ?_⟩
    · rw [← step, applyRule] at listed
      split at listed
      · rcases mem_append.mp listed with old | added
        · exact new applied old later (mem_cons_of_mem _ there)
        · rw [mem_singleton.mp added]
          exact fun key => distinct.1 (mem_map.mpr ⟨later, there, key.symm⟩)
      · exact new applied listed later (mem_cons_of_mem _ there)
    · rw [foldl_cons, foldl_cons, step] at same
      exact same

end

section
variable {env : CustomizationEnv} {context : RequestContext}
  {input : CustomizationEvaluationInput} {db : CustomizationDb} {tenantId : Id}

theorem inScope_iff (rule : CustomizationRule) : InScope tenantId input rule ↔
      ruleWhere tenantId input rule ∧ ¬ForeignChannel input rule := by
  unfold InScope ruleWhere ForeignChannel atPoint
  cases input.storeId with
  | none => simp only [or_self]; tauto
  | some storeId => tauto

theorem not_foreign_of_store {storeId : Id} (asked : input.storeId = some storeId)
    {rule : CustomizationRule} (found : ruleWhere tenantId input rule) :
    ¬ForeignChannel input rule := by
  unfold ruleWhere at found
  rw [asked] at found
  exact fun foreign => found.2.2.1.elim foreign.1 foreign.2

theorem rulesInScope_eq (tenantId : Id) (input : CustomizationEvaluationInput)
    (db : CustomizationDb) : ((orderedRules db).filter fun rule => InScope tenantId input rule) =
      (findRules tenantId input db).filter fun rule => ¬ForeignChannel input rule := by
  rw [findRules, filter_filter]
  refine filter_congr fun rule _ => ?_
  rw [Bool.eq_iff_iff]
  simp only [decide_eq_true_eq, Bool.and_eq_true, inScope_iff, and_comm]

theorem findRules_distinct (tenantId : Id) (input : CustomizationEvaluationInput)
    (db : CustomizationDb) : ((findRules tenantId input db).map CustomizationRule.id).Nodup := by
  have ordered : ((orderedRules db).map CustomizationRule.id).Nodup :=
    ((perm_insertionSort RuleBefore db.rules.val).map _).nodup_iff.mpr db.rules.property
  exact ordered.sublist (filter_sublist.map _)

theorem resolveEffectiveCustomization_admitted
    (admitted : admitEvaluation context input = .ok tenantId) :
    resolveEffectiveCustomization env context input db =
      .ok (evaluationOf tenantId input ((findRules tenantId input db).foldl (applyRule env input)
        ⟨baseState tenantId input db, []⟩)) := by
  rw [resolveEffectiveCustomization, admitted]
  rfl

end

/-- An evaluation applies exactly the rules in scope just when it asks for a store, or the
conditions of no rule of another channel hold when it would be its turn. -/
theorem appliesScope_iff (env : CustomizationEnv) (context : RequestContext)
    (input : CustomizationEvaluationInput) (db : CustomizationDb) :
    AppliesScope env context input db ↔ ForeignChannelsIdle env context input db := by
  constructor
  · intro applies tenantId admitted _
    have same := applies tenantId admitted
    rw [resolveEffectiveCustomization_admitted admitted, scopedEvaluation, rulesInScope_eq,
      ← foldl_applyOwn] at same
    refine idle_of_foldl (findRules_distinct tenantId input db)
      (fun _ listed => absurd listed List.not_mem_nil) ?_
    exact congrArg CustomizationEvaluation.appliedRules (Except.ok.inj same)
  · intro idle tenantId admitted
    rw [resolveEffectiveCustomization_admitted admitted, scopedEvaluation, rulesInScope_eq,
      ← foldl_applyOwn]
    cases asked : input.storeId with
    | none => rw [foldl_of_idle (idle tenantId admitted asked)]
    | some storeId =>
      have own : ((findRules tenantId input db).filter fun rule => ¬ForeignChannel input rule) =
          findRules tenantId input db := by
        refine List.filter_eq_self.mpr fun rule listed => ?_
        have found := of_decide_eq_true (List.mem_filter.mp listed).2
        exact decide_eq_true (not_foreign_of_store asked found)
      rw [foldl_applyOwn, own]

def kioskRule : CustomizationRule where
  id := 1
  tenantId := 1
  storeId := none
  channel := some .kiosk
  pointKey := none
  key := "kiosk"
  description := none
  status := .active
  priority := 100
  conditions := none
  actions := .obj [("setFeatureFlags", .obj [("kiosk.cash.enabled", .bool true)])]
  createdAt := 0

/-- A tenant with a rule for its kiosks has its deliveries evaluated without a store. -/
theorem kiosk_rule_applied_to_delivery :
    ¬∀ (env : CustomizationEnv) (context : RequestContext) (input : CustomizationEvaluationInput)
      (db : CustomizationDb), AppliesScope env context input db := by
  intro always
  let env : CustomizationEnv := ⟨0, fun _ => none⟩
  let context : RequestContext := ⟨"owner", some 1, .tenantMember, [], none⟩
  let input : CustomizationEvaluationInput := ⟨none, none, .delivery, none, none⟩
  let db : CustomizationDb := ⟨[], [], [], [], ⟨[kioskRule], by decide⟩⟩
  have same := always env context input db 1 rfl
  have applied : (resolveEffectiveCustomization env context input db).toOption.map
      (fun evaluation => evaluation.appliedRules.length) = some 1 := by decide +kernel
  have meant : (scopedEvaluation env 1 input db).appliedRules.length = 0 := by decide +kernel
  rw [same] at applied
  exact absurd (meant.symm.trans (Option.some.inj applied)) (by decide)

end Exetron.Customization
