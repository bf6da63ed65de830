import Patternwork.Proofs.Backtrack.Outcome
import Patternwork.Proofs.Negation.Compiled
import Patternwork.Proofs.Store.Yield

namespace Patternwork

open Backtrack Settings

/-- Two patterns match from the same positions of a text. -/
def Matcher.AgreeOn (w : String) (a b : Matcher) : Prop :=
  ∀ i ≤ w.length, a.outcomeAt w.toList.toArray i = .matched ↔
    b.outcomeAt w.toList.toArray i = .matched

instance (w : String) (a b : Matcher) : Decidable (Matcher.AgreeOn w a b) :=
  inferInstanceAs (Decidable (∀ i ≤ w.length, a.outcomeAt w.toList.toArray i = .matched ↔
    b.outcomeAt w.toList.toArray i = .matched))

section Pattern

variable {flags : Flags} {text : String} {given : Option Settings} {pattern : Pattern}
  {reading : Reading} {plan : Plan} {w : String}

/-- The plan of a text that is put around a pattern. -/
theorem Backtrack.Plan.parse?_around {before after : String}
    (hread : read? (flags.inlineGroup.toList ++
      (before.toList ++ text.toList ++ after.toList)) = some reading)
    (hplan : ofReading? reading = some plan) :
    parse? (flags.inlineGroup ++ (before ++ text ++ after)).toList = some plan := by
  simp only [String.toList_append]
  rw [parse?, hread]
  exact hplan

theorem anchoredTree_within {groups loops : Nat} {modes : Modes} {a : Tree}
    (ha : a.Within groups loops) : (anchoredTree modes a).Within groups loops := by
  refine Tree.within_joinParts fun part hpart => ?_
  rcases List.mem_append.mp hpart with hpart | hpart
  · rcases List.mem_cons.mp hpart with rfl | hpart
    · trivial
    · cases a with
      | empty => cases hpart
      | _ =>
        rw [List.mem_singleton.mp hpart]
        exact ha
  · rw [List.mem_singleton.mp hpart]
    trivial

/-- A strict negation between anchors matches a text on one line unless the pattern between
    anchors matches it; it always matches the empty text. -/
theorem exists_isMatch_iff_of_strict_of_read {alone : Reading}
    (hcompile : compileText text given = .ok (some pattern))
    (hread : read? (pattern.flags.inlineGroup.toList ++ text.toList) = some alone)
    (hnegated : (resolve given).negated = true)
    (hstrict : (given.getD empty).loosensNegation = false) (hspans : SpansText given)
    (hends : pattern.outcome w ≠ .aborted) :
    ∃ anchored,
      Plan.parse? (pattern.flags.inlineGroup ++ ("^(?:" ++ text ++ ")$")).toList = some anchored ∧
      (pattern.isMatch w = true ↔
        (pattern.flags.dotAll = true ∨ '\n' ∉ w.toList) ∧
          (w = "" ∨ anchored.outcome w.toList.toArray ≠ .matched)) := by
  obtain ⟨hembeds, guard, hguard, hmatcher⟩ := hspans.exists_matcher hcompile hnegated hread
  simp only [hstrict, Bool.not_false, guardTree, if_true] at hguard
  obtain ⟨anchored, hanchored, hplan⟩ := exists_ofReading?_anchored hguard
  have hmulti := hspans.multiLine_eq hcompile
  have hcaret : pattern.flags.modes.caret = .textStart := by
    simp [Modes.caret, Flags.modes, hmulti]
  rw [hcaret] at hplan
  have hwithin : guard.Within (Plan.groupSlots alone + alone.loops) :=
    compile?_within rfl _ guard (anchoredTree_within (read?_within hread)) hguard
  have hopen : 0 < Plan.groupSlots alone + alone.loops := by simp [Plan.groupSlots]
  have hblocks : Blocks w.toList.toArray guard
      (begunAt (Plan.groupSlots alone + (alone.loops + 1)) 0) (stepLimit - 6) _ :=
    blocks_anchored hwithin hopen (by omega) (Nat.le_refl _) (by decide) hplan
  refine ⟨anchored, Plan.parse?_around (read?_anchored hembeds) hanchored, ?_⟩
  rw [isMatch_iff_of_blocks hmatcher hmulti hwithin hopen (by omega) hblocks hends]
  refine and_congr_right fun _ => ?_
  constructor
  · intro hopen
    by_cases hempty : w = ""
    · exact .inl hempty
    · have hlength : 0 < w.length := Nat.pos_of_ne_zero (mt String.length_eq_zero_iff.mp hempty)
      exact .inr fun hmatched => hopen 0 hlength ⟨rfl, hmatched⟩
  · rintro (rfl | hunmatched) i hi ⟨rfl, hmatched⟩
    · exact absurd hi (Nat.lt_irrefl 0)
    · exact hunmatched hmatched

theorem exists_isMatch_iff_of_strict
    (hcompile : compileText text given = .ok (some pattern))
    (halone : Plan.parse? (pattern.flags.inlineGroup ++ text).toList = some plan)
    (hnegated : (resolve given).negated = true)
    (hstrict : (given.getD empty).loosensNegation = false) (hspans : SpansText given)
    (hends : pattern.outcome w ≠ .aborted) :
    ∃ anchored,
      Plan.parse? (pattern.flags.inlineGroup ++ ("^(?:" ++ text ++ ")$")).toList = some anchored ∧
      (pattern.isMatch w = true ↔
        (pattern.flags.dotAll = true ∨ '\n' ∉ w.toList) ∧
          (w = "" ∨ anchored.outcome w.toList.toArray ≠ .matched)) := by
  obtain ⟨alone, hread, _⟩ := Option.bind_eq_some_iff.mp halone
  rw [String.toList_append] at hread
  exact exists_isMatch_iff_of_strict_of_read hcompile hread hnegated hstrict hspans hends

/-- A text whose loose negation compiles, and which needs no backtracking, can be planned. -/
theorem exists_plan_of_loose {alone : Reading}
    (hcompile : compileText text given = .ok (some pattern))
    (hread : read? (pattern.flags.inlineGroup.toList ++ text.toList) = some alone)
    (hnegated : (resolve given).negated = true)
    (hloose : (given.getD empty).loosensNegation = true) (hspans : SpansText given)
    (hsoft : alone.tree.isHard alone.referenced = false) :
    ∃ a, alone.tree.regular? = some a ∧ Plan.ofReading? alone = some (.regular a) := by
  obtain ⟨_, guard, hguard, _⟩ := hspans.exists_matcher hcompile hnegated hread
  simp only [hloose, Bool.not_true, guardTree, Bool.false_eq_true, if_false] at hguard
  have hdelegate : delegate? .some [alone.tree] = some guard := by
    rw [← hguard, compile?.eq_def, if_pos (by simp [hsoft])]
  obtain ⟨node, hnode, hfits, _⟩ := of_delegate?_single (by decide) hdelegate
  exact ⟨node, hnode, by simp [Plan.ofReading?, hsoft, hnode, hfits]⟩

/-- A look-ahead with a pattern that is handed over matches where the pattern does. -/
theorem outcomeAt_ahead_iff {guard : Code} {slots : Nat} {haystack : Haystack} {p : Nat}
    (hplan : Plan.ofReading? reading = some plan) (hregular : plan.backtracks = false)
    (hguard : compile? reading.referenced (Plan.groupSlots reading) .some reading.tree =
      some guard) :
    (Plan.program (searching (.ahead guard)) slots).outcomeAt haystack p = .matched ↔
      plan.outcomeAt haystack p = .matched := by
  unfold Plan.ofReading? at hplan
  split at hplan
  next =>
    obtain ⟨_, _, rfl⟩ := Option.map_eq_some_iff.mp hplan
    cases hregular
  next hhard =>
    have hdelegate : delegate? .some [reading.tree] = some guard := by
      rw [← hguard, compile?.eq_def, if_pos (by simp [hhard])]
    obtain ⟨node, hnode, hfits, rfl⟩ := of_delegate?_single (by decide) hdelegate
    simp only [hnode, hfits, if_true] at hplan
    obtain rfl := Option.some.inj hplan
    exact outcomeAt_ahead_any_iff

/-- A loose negation between anchors matches a text on one line unless a look-ahead with the
    pattern matches before its end. The look-ahead matches where a pattern does that is handed
    over. -/
theorem exists_isMatch_iff_of_loose
    (hcompile : compileText text given = .ok (some pattern))
    (halone : Plan.parse? (pattern.flags.inlineGroup ++ text).toList = some plan)
    (hnegated : (resolve given).negated = true)
    (hloose : (given.getD empty).loosensNegation = true) (hspans : SpansText given)
    (hends : pattern.outcome w ≠ .aborted) :
    ∃ look,
      Plan.parse? (pattern.flags.inlineGroup ++ ("(?=" ++ text ++ ")")).toList = some look ∧
      Plan.parse? (pattern.flags.inlineGroup ++ ("(?:" ++ text ++ ")")).toList = some plan ∧
      (plan.backtracks = false → Matcher.AgreeOn w (.backtracking look) (.backtracking plan)) ∧
      (pattern.isMatch w = true ↔
        (pattern.flags.dotAll = true ∨ '\n' ∉ w.toList) ∧
          ∀ i < w.length, look.outcomeAt w.toList.toArray i ≠ .matched) := by
  obtain ⟨alone, hread, hplan⟩ := Option.bind_eq_some_iff.mp halone
  rw [String.toList_append] at hread
  obtain ⟨hembeds, guard, hguard, hmatcher⟩ := hspans.exists_matcher hcompile hnegated hread
  simp only [hloose, Bool.not_true, guardTree, Bool.false_eq_true, if_false] at hguard
  have hwithin : guard.Within (Plan.groupSlots alone + alone.loops) :=
    compile?_within rfl _ guard (read?_within hread) hguard
  have hopen : 0 < Plan.groupSlots alone + alone.loops := by simp [Plan.groupSlots]
  have hlimit : stepLimit - 6 + 6 ≤ stepLimit := by decide
  have hblocks : Blocks w.toList.toArray guard
      (begunAt (Plan.groupSlots alone + (alone.loops + 1)) 0) (stepLimit - 6) _ :=
    blocks_ahead hwithin hopen (by omega) (Nat.le_refl _) hlimit
  exact ⟨_, Plan.parse?_around (read?_ahead hembeds) (ofReading?_ahead hguard),
    Plan.parse?_around (read?_grouped hembeds) hplan,
    fun hregular _ _ => outcomeAt_ahead_iff hplan hregular hguard,
    isMatch_iff_of_blocks hmatcher (hspans.multiLine_eq hcompile) hwithin hopen (by omega)
      hblocks hends⟩

end Pattern

/-- A text is on one line, or the flags contain `s`, so that lines do not matter. -/
def Settings.OnOneLine (given : Option Settings) (w : String) : Prop :=
  's' ∈ (resolve given).flags.toList ∨ '\n' ∉ w.toList

theorem Settings.onOneLine_iff {given : Option Settings} {flags : Flags} {w : String}
    (hflags : Flags.parse? (resolve given).flags = some flags) :
    OnOneLine given w ↔ flags.dotAll = true ∨ '\n' ∉ w.toList :=
  or_congr_left (Flags.has_iff_of_parse? hflags .dotAll).symm

/-- Options that ask for a match anywhere in a text, under the same flags. -/
structure Settings.ContainsPlainly (containing given : Option Settings) : Prop where
  contains : (containing.getD empty).isTrue Name.contains = true
  plain : (containing.getD empty).asksNegation = false
  flags_eq : (resolve containing).flags = (resolve given).flags

variable {text : String} {given : Option Settings} {shared : Shared} {w : String}

theorem Settings.ContainsPlainly.assembled_eq {containing : Option Settings}
    (hcontaining : ContainsPlainly containing given) (text : String) :
    (resolve containing).assembled text = "(?:" ++ text ++ ")" := by
  have hnegated : (resolve containing).negated = false :=
    (negated_resolve containing).trans hcontaining.plain
  have hnegate : (containing.getD empty).isTrue Name.negate = false := by
    by_contra htrue
    have hasks := hcontaining.plain
    simp [asksNegation, isTruthy_of_isTrue (Bool.eq_true_of_not_eq_false htrue)] at hasks
  have hdrops : (containing.getD empty).dropsAnchors = true := by
    simp [dropsAnchors, hcontaining.contains, hnegate]
  simp [Effective.assembled, Effective.opening, Effective.closing, Effective.body, hnegated,
    anchoredStart_resolve, anchoredEnd_resolve, hdrops]

/-- What a pattern finds that was compiled for texts that contain another: the matches of the
    other from all positions. -/
theorem Settings.ContainsPlainly.isMatch_iff {containing : Option Settings} {plain : Shared}
    {plan : Plan} (hcontaining : ContainsPlainly containing given)
    (hmakes : Makes text containing plain)
    (hplan : Plan.parse? (plain.pattern.flags.inlineGroup ++ ("(?:" ++ text ++ ")")).toList =
      some plan)
    (hagree : plain.pattern.isBacktracking = false →
      Matcher.AgreeOn w plain.pattern.matcher (.backtracking plan))
    (hends : plain.pattern.outcome w ≠ .aborted) :
    plain.pattern.isMatch w = true ↔
      ∃ i ≤ w.length, plan.outcomeAt w.toList.toArray i = .matched := by
  have hcompile := compileText_eq_ok_some_iff.mp hmakes.compiles
  rw [hcontaining.assembled_eq] at hcompile
  have hmatcher : Matcher.AgreeOn w plain.pattern.matcher (.backtracking plan) := by
    cases hbacktracking : plain.pattern.isBacktracking with
    | false => exact hagree hbacktracking
    | true =>
      have heq := Pattern.matcher_eq_backtracking hcompile hbacktracking hplan
      change plain.pattern.matcher = .backtracking plan at heq
      rw [heq]
      exact fun _ _ => Iff.rfl
  have htext := Pattern.ofText?_of_compile_eq_ok hcompile
  have hfound := Matcher.outcome_eq_matched_iff htext hends
  rw [List.size_toArray, String.length_toList] at hfound
  rw [Pattern.isMatch, beq_iff_eq]
  exact hfound.trans (exists_congr fun i => and_congr_right fun hi => hmatcher i hi)

/-- Strict negation. A pattern that negates a text between anchors matches what is on one line,
    unless it is matched as a whole; the empty text is always matched. Where the text between
    anchors is a regular expression, both notations must agree on its matches. -/
theorem isMatch_strictNegation_iff (hmakes : Makes text given shared)
    (halone : (Plan.parse? (shared.pattern.flags.inlineGroup ++ text).toList).isSome = true)
    (hnegated : (resolve given).negated = true)
    (hcontains : (given.getD empty).isTrue Name.contains = false)
    (hstrict : (given.getD empty).isFalse Name.strictNegate = false)
    (hspans : SpansText given) (hends : shared.pattern.outcome w ≠ .aborted) :
    ∃ anchored,
      Plan.parse? (shared.pattern.flags.inlineGroup ++ ("^(?:" ++ text ++ ")$")).toList =
        some anchored ∧
      (shared.pattern.isMatch w = true ↔
        OnOneLine given w ∧ (w = "" ∨ anchored.outcome w.toList.toArray ≠ .matched)) ∧
      ∀ whole, Pattern.compile ("^(?:" ++ text ++ ")$") (resolve given).flags = .ok whole →
        (whole.isBacktracking = false → whole.outcome w = anchored.outcome w.toList.toArray) →
        (shared.pattern.isMatch w = true ↔
          OnOneLine given w ∧ (w = "" ∨ whole.isMatch w = false)) := by
  obtain ⟨plan, hplan⟩ := Option.isSome_iff_exists.mp halone
  have hcompile := hmakes.compiles
  obtain ⟨_, hflags, _⟩ := of_compileText_eq_ok hcompile
  obtain ⟨anchored, hanchored, hmatch⟩ := exists_isMatch_iff_of_strict hcompile hplan hnegated
    (by simp [loosensNegation, hcontains, hstrict]) hspans hends
  have hiff : shared.pattern.isMatch w = true ↔
      OnOneLine given w ∧ (w = "" ∨ anchored.outcome w.toList.toArray ≠ .matched) :=
    hmatch.trans (and_congr_left fun _ => (onOneLine_iff hflags).symm)
  refine ⟨anchored, hanchored, hiff, fun whole hwhole hagree => ?_⟩
  have hsame : whole.flags = shared.pattern.flags :=
    Option.some.inj ((Pattern.of_compile_eq_ok hwhole).2.1.symm.trans hflags)
  rw [← hsame] at hanchored
  rw [hiff, ← Pattern.outcome_eq_of_parse? hwhole hanchored hagree]
  simp [Pattern.isMatch]

/-- The negation of a word, and a longer one. -/
theorem isMatch_strictNegation_foo :
    ∃ shared anchored, Makes "foo" (some (empty.withNegate true)) shared ∧
      Plan.parse? "^(?:foo)$".toList = some anchored ∧
      (shared.pattern.isMatch "foobar" = true ↔
        OnOneLine (some (empty.withNegate true)) "foobar" ∧
          ("foobar" = "" ∨ anchored.outcome "foobar".toList.toArray ≠ .matched)) := by
  obtain ⟨shared, hmakes, hflags, hends⟩ :
      ∃ shared, Makes "foo" (some (empty.withNegate true)) shared ∧
        shared.pattern.flags.inlineGroup = "" ∧ shared.pattern.outcome "foobar" ≠ .aborted :=
    exists_makes (by decide +kernel)
  have halone : (Plan.parse? (shared.pattern.flags.inlineGroup ++ "foo").toList).isSome = true := by
    rw [hflags]
    decide +kernel
  obtain ⟨anchored, hanchored, hmatch, _⟩ :=
    isMatch_strictNegation_iff hmakes halone (by decide) (by decide) (by decide)
      ⟨by decide, by decide, by decide, by decide⟩ hends
  rw [hflags] at hanchored
  exact ⟨shared, anchored, hmakes, hanchored, hmatch⟩

end Patternwork
