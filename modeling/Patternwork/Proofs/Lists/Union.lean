import Patternwork.Proofs.Backtrack.Union
import Patternwork.Proofs.Negation.Literal
import Patternwork.Proofs.Regular.Reading.Alternatives
import Patternwork.Proofs.Store.Assembly

namespace Patternwork

open Settings

variable {text : String} {items : List Item} {given : Option Settings} {shared single : Shared}
  {w : String}

/-- A pattern that was made without backtracking is the expression of the text between its
    anchors. -/
theorem Makes.exists_parse? (hmakes : Makes text given shared)
    (hplain : (given.getD empty).asksNegation = false)
    (hregular : shared.pattern.isBacktracking = false) :
    ∃ a, Regular.parse? (shared.pattern.flags.inlineGroup.toList ++
        Item.anchored (resolve given).anchoredStart (resolve given).anchoredEnd text.toList) =
          some a ∧ shared.pattern.matcher = .regular a := by
  have hcompile := compileText_eq_ok_some_iff.mp hmakes.compiles
  obtain ⟨a, hparse, hmatcher⟩ := Pattern.exists_parse?_of_compile hcompile hregular
  rw [Effective.toList_assembled ((negated_resolve given).trans hplain)] at hparse
  exact ⟨a, hparse, hmatcher⟩

/-- Whether a pattern is matched by a program of its own, not handed over as a whole. -/
def Pattern.isProgram (pattern : Pattern) : Bool :=
  match pattern.matcher with
  | .regular _ => false
  | .backtracking plan => plan.backtracks

theorem Pattern.exists_plan_of_isProgram {pattern : Pattern} (hprogram : pattern.isProgram = true) :
    ∃ plan, pattern.matcher = .backtracking plan ∧ plan.backtracks = true := by
  unfold isProgram at hprogram
  split at hprogram
  next => cases hprogram
  next plan hmatcher => exact ⟨plan, hmatcher, hprogram⟩

/-- A pattern that was made with backtracking is the plan of the text between its anchors. -/
theorem Makes.exists_plan? (hmakes : Makes text given shared)
    (hplain : (given.getD empty).asksNegation = false)
    (hbacktracking : shared.pattern.isBacktracking = true) :
    ∃ plan, Backtrack.Plan.parse? (shared.pattern.flags.inlineGroup.toList ++
        Item.anchored (resolve given).anchoredStart (resolve given).anchoredEnd text.toList) =
          some plan ∧ shared.pattern.matcher = .backtracking plan := by
  have hcompile := compileText_eq_ok_some_iff.mp hmakes.compiles
  rcases Pattern.matcher_cases hcompile with ⟨a, _, hmatcher⟩ | ⟨plan, hparse, hmatcher⟩
  · rw [Pattern.isBacktracking, hmatcher] at hbacktracking
    cases hbacktracking
  · rw [Effective.toList_assembled ((negated_resolve given).trans hplain)] at hparse
    exact ⟨plan, hparse, hmatcher⟩

theorem Makes.flags_eq (hmakes : Makes text given shared) :
    Flags.parse? (resolve given).flags = some shared.pattern.flags :=
  (of_compileText_eq_ok hmakes.compiles).2.1

/-- Whatever is made from a text under the same options is matched in the same way. -/
theorem Makes.matcher_eq (hmakes : Makes text given shared) (hsingle : Makes text given single) :
    single.pattern.matcher = shared.pattern.matcher := by
  have hsame := Option.some.inj (Except.ok.inj (hsingle.compiles.symm.trans hmakes.compiles))
  have hmatcher := congrArg Pattern.matcher hsame
  exact hmatcher

theorem Pattern.isMatch_of_regular {pattern : Pattern} {a : Regular}
    (hmatcher : pattern.matcher = .regular a) (w : String) :
    pattern.isMatch w = a.isMatch w.toList.toArray := by
  rw [isMatch, outcome, hmatcher, Matcher.outcome]
  cases a.isMatch w.toList.toArray <;> rfl

theorem Pattern.isMatch_of_plan {pattern : Pattern} {plan : Backtrack.Plan}
    (hmatcher : pattern.matcher = .backtracking plan) :
    pattern.isMatch w = true ↔ plan.outcome w.toList.toArray = .matched := by
  rw [isMatch, outcome, hmatcher, Matcher.outcome, beq_iff_eq]

/-- A list of alternatives matches what one of them matches, where nothing needs backtracking: not
    the list, nor the items on their own, nor the patterns made from them. -/
theorem isMatch_list_iff (hyields : Call.Yields ⟨.compile, .list items, given⟩ shared)
    (hitems : items ≠ []) (hplain : (given.getD empty).asksNegation = false)
    (hwrap : wraps given = true)
    (hregular : shared.pattern.isBacktracking = false)
    (halone : ∀ item ∈ items, ∃ alone,
      Pattern.compile item.source (resolve given).flags = .ok alone ∧
        alone.isBacktracking = false)
    (hsingle : ∀ item ∈ items, ∃ single, Makes item.source given single ∧
      single.pattern.isBacktracking = false) :
    shared.pattern.isMatch w = true ↔ ∃ item ∈ items, ∃ single, Makes item.source given single ∧
      single.pattern.isMatch w = true := by
  have hmakes := hyields.makes rfl
  obtain ⟨a, hparse, hmatcher⟩ := hmakes.exists_parse? hplain hregular
  have hflags := hmakes.flags_eq
  have hread : ∀ item ∈ items, ∃ single b, Makes item.source given single ∧
      single.pattern.matcher = .regular b ∧
      Regular.parse? (shared.pattern.flags.inlineGroup.toList ++ Item.anchored
        (resolve given).anchoredStart (resolve given).anchoredEnd item.source.toList) = some b := by
    intro item hitem
    obtain ⟨single, hmade, hnone⟩ := hsingle item hitem
    obtain ⟨b, hb, hsame⟩ := hmade.exists_parse? hplain hnone
    rw [Option.some.inj (hmade.flags_eq.symm.trans hflags)] at hb
    exact ⟨single, b, hmade, hsame, hb⟩
  rw [hwrap, Item.toList_join] at hparse
  rw [Pattern.isMatch_of_regular hmatcher,
    Regular.isMatch_branches_iff (by simpa using hitems) ?_ ?_ hparse]
  · simp only [List.mem_map, exists_exists_and_eq_and]
    refine exists_congr fun item => and_congr_right fun hitem => ?_
    obtain ⟨single, b, hmade, hsame, hb⟩ := hread item hitem
    constructor
    · rintro ⟨c, hc, hmatch⟩
      obtain rfl := Option.some.inj (hb.symm.trans hc)
      exact ⟨single, hmade, by rwa [Pattern.isMatch_of_regular hsame]⟩
    · rintro ⟨other, hother, hmatch⟩
      rw [Pattern.isMatch_of_regular ((hmade.matcher_eq hother).trans hsame)] at hmatch
      exact ⟨b, hb, hmatch⟩
  · simp only [List.forall_mem_map]
    intro item hitem
    obtain ⟨alone, hcompile, hnone⟩ := halone item hitem
    obtain ⟨b, hb, _⟩ := Pattern.exists_parse?_of_compile hcompile hnone
    rw [Option.some.inj ((Pattern.of_compile_eq_ok hcompile).2.1.symm.trans hflags)] at hb
    exact ⟨b, hb⟩
  · simp only [List.forall_mem_map]
    intro item hitem
    obtain ⟨_, b, _, _, hb⟩ := hread item hitem
    exact ⟨b, hb⟩

/-- Two items with groups, of which a text matches the second one. -/
theorem isMatch_list_iff_of_groups :
    let items := [Item.text "(a)", .text "(?i)b+"]
    ∃ shared, Call.Yields ⟨.compile, .list items, none⟩ shared ∧
      (shared.pattern.isMatch "bB" = true ↔
        ∃ item ∈ items, ∃ single, Makes item.source none single ∧
          single.pattern.isMatch "bB" = true) := by
  intro items
  obtain ⟨shared, hyields, hregular⟩ :
      ∃ shared, Call.Yields ⟨.compile, .list items, none⟩ shared ∧
        shared.pattern.isBacktracking = false := exists_yields (by decide +kernel)
  refine ⟨shared, hyields, isMatch_list_iff hyields (by decide) (by decide) (by decide) hregular
    ?_ ?_⟩
  · intro item hitem
    simp only [items, List.mem_cons, List.not_mem_nil, or_false] at hitem
    rcases hitem with rfl | rfl <;> exact Pattern.exists_compile (by decide +kernel)
  · intro item hitem
    simp only [items, List.mem_cons, List.not_mem_nil, or_false] at hitem
    rcases hitem with rfl | rfl <;> exact exists_makes (by decide +kernel)

/-- The plan of a text between its anchors matches as the pattern made from the text does. -/
structure Planned (text : String) (given : Option Settings) (w : String) (single : Shared)
    (plan : Backtrack.Plan) : Prop where
  makes : Makes text given single
  parsed : Backtrack.Plan.parse? (single.pattern.flags.inlineGroup.toList ++ Item.anchored
    (resolve given).anchoredStart (resolve given).anchoredEnd text.toList) = some plan
  ends : plan.outcome w.toList.toArray ≠ .aborted
  agrees : single.pattern.isMatch w = true ↔ plan.outcome w.toList.toArray = .matched

/-- A pattern that was made with backtracking is matched by its plan. -/
theorem Makes.exists_planned (hmakes : Makes text given single)
    (hplain : (given.getD empty).asksNegation = false)
    (hbacktracking : single.pattern.isBacktracking = true)
    (hends : single.pattern.outcome w ≠ .aborted) : ∃ plan, Planned text given w single plan := by
  obtain ⟨plan, hparse, hmatcher⟩ := hmakes.exists_plan? hplain hbacktracking
  rw [Pattern.outcome, hmatcher] at hends
  exact ⟨plan, hmakes, hparse, hends, Pattern.isMatch_of_plan hmatcher⟩

theorem Backtrack.Plan.outcome_regular_ne_aborted (a : Regular) (text : Haystack) :
    (Plan.regular a).outcome text ≠ .aborted := by
  cases hmatch : a.isMatch text <;> simp [outcome, hmatch]

/-- A word is matched alike by the pattern made from it and by its plan. -/
theorem Makes.exists_planned_of_literal (hmakes : Makes text given single)
    (hplain : (given.getD empty).asksNegation = false) (hflags : (resolve given).flags = "")
    (hliteral : Literal text.toList)
    (hparse : (Backtrack.Plan.parse? (Item.anchored (resolve given).anchoredStart
      (resolve given).anchoredEnd text.toList)).isSome = true) :
    ∃ plan, Planned text given w single plan := by
  have hgroup := inlineGroup_eq_empty hmakes hflags
  have hsource := Effective.toList_assembled ((negated_resolve given).trans hplain) text
  obtain ⟨plan, hplan⟩ := Option.isSome_iff_exists.mp hparse
  have hagree := Pattern.agree_of_literal hliteral (compileText_eq_ok_some_iff.mp hmakes.compiles)
    hgroup hsource (hsource ▸ hplan) w.toList.toArray
  refine ⟨plan, hmakes, by rwa [hgroup, String.toList_empty, List.nil_append], ?_, ?_⟩
  · rw [← Item.branches_singleton text.toList] at hplan
    obtain ⟨parts, _, rfl⟩ := Backtrack.eq_regular_of_parse?_anchored (List.cons_ne_nil _ _)
      (literal_singleton hliteral) hplan
    exact Backtrack.Plan.outcome_regular_ne_aborted _ _
  · rw [Pattern.isMatch, Pattern.outcome, hagree.1, beq_iff_eq]

/-- A list of alternatives that is matched by a program of its own matches what one of them
    matches, where none refers to a group or holds the sign of a comment, each is matched as its
    plan is, and no search is given up. -/
theorem isMatch_list_iff_of_program (hyields : Call.Yields ⟨.compile, .list items, given⟩ shared)
    (hitems : items ≠ []) (hplain : (given.getD empty).asksNegation = false)
    (hwrap : wraps given = true)
    (hmovable : ∀ item ∈ items, ∃ alone,
      Backtrack.Movable shared.pattern.flags item.source.toList alone)
    (hplanned : ∀ item ∈ items, ∃ single plan, Planned item.source given w single plan)
    (hprogram : shared.pattern.isProgram = true) (hends : shared.pattern.outcome w ≠ .aborted) :
    shared.pattern.isMatch w = true ↔ ∃ item ∈ items, ∃ single, Makes item.source given single ∧
      single.pattern.isMatch w = true := by
  have hmakes := hyields.makes rfl
  obtain ⟨own, hown, hbacktracks⟩ := Pattern.exists_plan_of_isProgram hprogram
  obtain ⟨plan, hparse, hmatcher⟩ := hmakes.exists_plan? hplain
    (by rw [Pattern.isBacktracking, hown])
  obtain rfl := Matcher.backtracking.inj (hown.symm.trans hmatcher)
  have hread : ∀ item ∈ items, ∃ single plan, Planned item.source given w single plan ∧
      Backtrack.Plan.parse? (shared.pattern.flags.inlineGroup.toList ++ Item.anchored
        (resolve given).anchoredStart (resolve given).anchoredEnd item.source.toList) =
          some plan := by
    intro item hitem
    obtain ⟨single, plan, hsingle⟩ := hplanned item hitem
    have hparsed := hsingle.parsed
    rw [Option.some.inj (hsingle.makes.flags_eq.symm.trans hmakes.flags_eq)] at hparsed
    exact ⟨single, plan, hsingle, hparsed⟩
  rw [hwrap, Item.toList_join] at hparse
  rw [Pattern.outcome, hmatcher] at hends
  rw [Pattern.isMatch_of_plan hmatcher, Backtrack.outcome_branches_iff (by simpa using hitems)
    ?_ ?_ hparse hbacktracks hends]
  · simp only [List.mem_map, exists_exists_and_eq_and]
    refine exists_congr fun item => and_congr_right fun hitem => ?_
    obtain ⟨single, plan, hsingle, hparsed⟩ := hread item hitem
    constructor
    · rintro ⟨other, hother, hmatch⟩
      obtain rfl := Option.some.inj (hparsed.symm.trans hother)
      exact ⟨single, hsingle.makes, hsingle.agrees.mpr hmatch⟩
    · rintro ⟨other, hother, hmatch⟩
      rw [Pattern.isMatch, Pattern.outcome, hsingle.makes.matcher_eq hother] at hmatch
      exact ⟨plan, hparsed, hsingle.agrees.mp hmatch⟩
  · simpa only [List.forall_mem_map] using hmovable
  · simp only [List.forall_mem_map]
    intro item hitem
    obtain ⟨_, plan, hsingle, hparsed⟩ := hread item hitem
    exact ⟨plan, hparsed, hsingle.ends⟩

/-- A word and a pattern with groups and look-around, of which a text matches the first one. -/
theorem isMatch_list_iff_of_lookAround :
    let items := [Item.text "foo", .text "(b)(?!c)|(?<=c)d"]
    ∃ shared, Call.Yields ⟨.compile, .list items, none⟩ shared ∧
      (shared.pattern.isMatch "foo" = true ↔
        ∃ item ∈ items, ∃ single, Makes item.source none single ∧
          single.pattern.isMatch "foo" = true) := by
  intro items
  obtain ⟨shared, hyields, hflags, hprogram, hends⟩ :
      ∃ shared, Call.Yields ⟨.compile, .list items, none⟩ shared ∧ shared.pattern.flags = {} ∧
        shared.pattern.isProgram = true ∧ shared.pattern.outcome "foo" ≠ .aborted :=
    exists_yields (by decide +kernel)
  refine ⟨shared, hyields, isMatch_list_iff_of_program hyields (by decide) (by decide) (by decide)
    ?_ ?_ hprogram hends⟩
  · intro item hitem
    rw [hflags]
    simp only [items, List.mem_cons, List.not_mem_nil, or_false] at hitem
    rcases hitem with rfl | rfl <;> exact Backtrack.exists_movable (by decide +kernel)
  · intro item hitem
    simp only [items, List.mem_cons, List.not_mem_nil, or_false] at hitem
    rcases hitem with rfl | rfl
    · obtain ⟨single, hmakes, -⟩ : ∃ single, Makes "foo" none single ∧ True :=
        exists_makes (by decide +kernel)
      exact ⟨single, hmakes.exists_planned_of_literal (by decide) (by decide) (by decide)
        (by decide +kernel)⟩
    · obtain ⟨single, hmakes, hbacktracking, hlives⟩ :
          ∃ single, Makes "(b)(?!c)|(?<=c)d" none single ∧
            single.pattern.isBacktracking = true ∧ single.pattern.outcome "foo" ≠ .aborted :=
        exists_makes (by decide +kernel)
      exact ⟨single, hmakes.exists_planned (by decide) hbacktracking hlives⟩

/-- A reference to a group counts the groups of the items before it. -/
theorem isMatch_list_of_reference :
    asksNegation empty = false ∧ wraps none = true ∧ (resolve none).flags = "" ∧
      (∃ alone, Pattern.compile "(a)" "" = .ok alone ∧ alone.isBacktracking = false) ∧
      (∃ alone, Pattern.compile "(b)\\1" "" = .ok alone ∧ alone.isBacktracking = true) ∧
      (∃ single, Makes "(a)" none single ∧ single.pattern.outcome "bb" = .unmatched) ∧
      (∃ single, Makes "(b)\\1" none single ∧ single.pattern.outcome "bb" = .matched) ∧
      ∃ shared, Call.Yields ⟨.compile, .list [.text "(a)", .text "(b)\\1"], none⟩ shared ∧
        shared.pattern.outcome "bb" = .unmatched :=
  ⟨by decide, by decide, by decide, Pattern.exists_compile (by decide +kernel),
    Pattern.exists_compile (by decide +kernel), exists_makes (by decide +kernel),
    exists_makes (by decide +kernel), exists_yields (by decide +kernel)⟩

end Patternwork
