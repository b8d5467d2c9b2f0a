/-
**The importance of a candidate.**

A score of what is known of a candidate, each part with its reason. It is no investment score.
-/

import Mathlib.Data.Rat.Cast.Order
import Mathlib.Tactic.NormNum
import Mathlib.Tactic.Positivity

namespace NewsCollect.EventIntelligence

structure ImportanceInput where
  officialSource : Bool
  evidenceCount : Nat
  sourceCount : Nat
  sourcePriority : Option Int
  entityCount : Nat
  corroborated : Bool

structure ImportanceResult where
  score : ℚ
  componentReasons : List String
  scoringVersion : Nat

/-- `DeterministicImportanceScorer.score`. -/
def ImportanceInput.score (value : ImportanceInput) : ImportanceResult :=
  if value.evidenceCount = 0 then ⟨0, ["no_active_evidence:0"], 1⟩
  else
    let official : Nat := if value.officialSource then 30 else 0
    -- a difference of counts is never negative here, as `max(0, ...)` has it
    let diversity := min 20 ((value.sourceCount - 1) * 10)
    let corroboration : Nat := if value.corroborated then 15 else 0
    let entity := min 15 (value.entityCount * 5)
    let priority := min 10 (max 0 (value.sourcePriority.getD 0))
    ⟨min 100 (10 + official + diversity + corroboration + entity + priority),
      ["base:10"] ++ (if value.officialSource then ["official_source:30"] else []) ++
        ["source_diversity:" ++ toString diversity, "corroboration:" ++ toString corroboration,
          "entity_relevance:" ++ toString entity, "source_priority:" ++ toString priority], 1⟩

/-- A score is between 0 and 100. -/
theorem ImportanceInput.score_bounds (value : ImportanceInput) :
    0 ≤ value.score.score ∧ value.score.score ≤ 100 := by
  unfold ImportanceInput.score
  split
  · norm_num
  · refine ⟨le_min (by norm_num) ?_, min_le_left ..⟩
    have priority : (0 : ℚ) ≤ (min 10 (max 0 (value.sourcePriority.getD 0)) : ℤ) := by
      exact_mod_cast le_min (by norm_num) (le_max_left ..)
    positivity

/-- The confidence in a candidate, of the number of its sources. -/
def confidenceOf (officialSource : Bool) (evidenceCount sourceCount : Nat) : ℚ :=
  if evidenceCount = 0 then 0
  else min 1 (45 / 100 + (if officialSource then 20 / 100 else 0) +
    min (30 / 100) ((sourceCount - 1 : Nat) * (15 / 100)))

theorem confidenceOf_bounds (officialSource : Bool) (evidenceCount sourceCount : Nat) :
    0 ≤ confidenceOf officialSource evidenceCount sourceCount ∧
      confidenceOf officialSource evidenceCount sourceCount ≤ 1 := by
  unfold confidenceOf
  split
  · norm_num
  · refine ⟨le_min (by norm_num) ?_, min_le_left ..⟩
    have sources : (0 : ℚ) ≤ min (30 / 100) ((sourceCount - 1 : Nat) * (15 / 100)) := by positivity
    have official : (0 : ℚ) ≤ if officialSource then 20 / 100 else 0 := by
      split
      · norm_num
      · exact le_rfl
    positivity

end NewsCollect.EventIntelligence
