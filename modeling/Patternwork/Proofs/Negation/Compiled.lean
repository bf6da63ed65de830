import Patternwork.Proofs.Compilation
import Patternwork.Proofs.Flags
import Patternwork.Proofs.Negation.Loop
import Patternwork.Proofs.Regular.LookAhead
import Patternwork.Proofs.Settings.Resolution

namespace Patternwork

open Backtrack Settings

variable {text : String} {given : Option Settings} {pattern : Pattern} {alone : Reading}

/-- The text that a negation is assembled to. -/
def Effective.negationText (effective : Effective) (text : String) : List Char :=
  let strict := !effective.settings.loosensNegation
  effective.opening.toList ++
    (beforeGuarded strict ++ (text.toList ++ (afterGuarded strict ++ effective.closing.toList)))

theorem Effective.assembled_of_negated {effective : Effective} (hnegated : effective.negated = true)
    (hquantifier : effective.settings.truthyText? Name.endChar = none) (text : String) :
    (effective.assembled text).toList = effective.negationText text := by
  have hstar : effective.settings.negationQuantifier = "*" := by
    simp [negationQuantifier, hquantifier]
  unfold assembled body negation negationText
  cases effective.settings.loosensNegation <;>
    simp [hnegated, hstar, beforeGuarded, afterGuarded]

/-- Whatever is negated and however it is repeated, its look-ahead comes first. -/
theorem Effective.prefix_assembled {effective : Effective} (hnegated : effective.negated = true)
    (text : String) :
    effective.opening.toList ++ "(?:(?:(?!".toList <+: (effective.assembled text).toList := by
  unfold assembled body negation
  rw [if_pos hnegated]
  split
  · simp
  · simp

/-- The first notation comes to that look-ahead and refuses the text. -/
theorem Regular.unreadable_assembled {effective : Effective} (hnegated : effective.negated = true)
    (text : String) : Regular.Unreadable (effective.assembled text).toList := by
  obtain ⟨rest, hassembled⟩ := Effective.prefix_assembled hnegated text
  have hguarded : Regular.Unreadable ("(?:(?:(?!".toList ++ rest) :=
    (Regular.unreadable_notAhead rest).scoped.scoped
  rw [← hassembled, List.append_assoc]
  unfold Effective.opening
  cases effective.anchoredStart
  · exact hguarded
  · exact hguarded.caret

/-- A negation is matched by backtracking. -/
theorem exists_plan_of_negated (hcompile : compileText text given = .ok (some pattern))
    (hnegated : (resolve given).negated = true)
    (hquantifier : (given.getD empty).truthyText? Name.endChar = none) :
    ∃ plan, pattern.matcher = .backtracking plan ∧
      Plan.parse? (pattern.flags.inlineGroup.toList ++ (resolve given).negationText text) =
        some plan := by
  have hmatcher := Pattern.ofText?_of_compile_eq_ok (compileText_eq_ok_some_iff.mp hcompile)
  have htext : (pattern.flags.inlineGroup ++ (resolve given).assembled text).toList =
      pattern.flags.inlineGroup.toList ++ (resolve given).negationText text := by
    rw [String.toList_append, Effective.assembled_of_negated hnegated]
    rw [truthyText?_resolve (by decide), hquantifier]
  have hregular := ((Regular.unreadable_assembled hnegated text).inlineGroup
    pattern.flags).parse?_eq_none
  rw [← String.toList_append, htext] at hregular
  rw [Matcher.ofText?, htext, hregular] at hmatcher
  obtain ⟨plan, hplan, hmatcher⟩ := Option.map_eq_some_iff.mp hmatcher
  exact ⟨plan, hmatcher.symm, hplan⟩

/-- Options under which a pattern spans a text: it is kept between its anchors, these stand for
    the ends of the text, and a negation is repeated as often as possible. -/
structure Settings.SpansText (given : Option Settings) : Prop where
  anchoredStart : (resolve given).anchoredStart = true
  anchoredEnd : (resolve given).anchoredEnd = true
  noQuantifier : (given.getD empty).truthyText? Name.endChar = none
  singleLine : 'm' ∉ (resolve given).flags.toList

theorem Settings.SpansText.multiLine_eq (hspans : SpansText given)
    (hcompile : compileText text given = .ok (some pattern)) : pattern.flags.multiLine = false := by
  have hflags := (of_compileText_eq_ok hcompile).2.1
  have hletter : ¬ pattern.flags.has .multiLine = true := by
    rw [Flags.has_iff_of_parse? hflags]
    exact hspans.singleLine
  simpa [Flags.has] using hletter

/-- The program of a negation between anchors. -/
theorem Settings.SpansText.exists_matcher (hspans : SpansText given)
    (hcompile : compileText text given = .ok (some pattern))
    (hnegated : (resolve given).negated = true)
    (halone : read? (pattern.flags.inlineGroup.toList ++ text.toList) = some alone) :
    Embeds pattern.flags text.toList alone ∧ ∃ guard,
      compile? alone.referenced (Plan.groupSlots alone) .some
        (guardTree pattern.flags.modes (!(given.getD empty).loosensNegation) alone.tree) =
          some guard ∧
      pattern.matcher = .backtracking
        (.program (searching (loopBetween pattern.flags.modes guard))
          (Plan.groupSlots alone + (alone.loops + 1))) := by
  obtain ⟨plan, hmatcher, hplan⟩ :=
    exists_plan_of_negated hcompile hnegated hspans.noQuantifier
  obtain ⟨reading, hread, hplan⟩ := Option.bind_eq_some_iff.mp hplan
  have htext : (resolve given).negationText text =
      '^' :: (beforeGuarded (!(given.getD empty).loosensNegation) ++
        (text.toList ++ (afterGuarded (!(given.getD empty).loosensNegation) ++ ['$']))) := by
    simp [Effective.negationText, Effective.opening, Effective.closing, hspans.anchoredStart,
      hspans.anchoredEnd, loosensNegation_resolve]
  rw [htext] at hread
  obtain ⟨hembeds, rfl⟩ := read?_negation halone hread
  obtain ⟨guard, hguard, rfl⟩ := of_ofReading?_loopBetween hplan
  exact ⟨hembeds, guard, hguard, hmatcher⟩

/-- The program of a negation without anchors. -/
theorem exists_bareMatcher (hcompile : compileText text given = .ok (some pattern))
    (hnegated : (resolve given).negated = true)
    (hquantifier : (given.getD empty).truthyText? Name.endChar = none)
    (hstart : (resolve given).anchoredStart = false) (hend : (resolve given).anchoredEnd = false)
    (halone : read? (pattern.flags.inlineGroup.toList ++ text.toList) = some alone) :
    ∃ guard,
      compile? alone.referenced (Plan.groupSlots alone) .some
        (guardTree pattern.flags.modes (!(given.getD empty).loosensNegation) alone.tree) =
          some guard ∧
      pattern.matcher = .backtracking
        (.program (searching (.star true (guard.guarding pattern.flags.modes.dot)))
          (Plan.groupSlots alone + (alone.loops + 1))) := by
  obtain ⟨plan, hmatcher, hplan⟩ := exists_plan_of_negated hcompile hnegated hquantifier
  obtain ⟨reading, hread, hplan⟩ := Option.bind_eq_some_iff.mp hplan
  have htext : (resolve given).negationText text =
      beforeGuarded (!(given.getD empty).loosensNegation) ++
        (text.toList ++ (afterGuarded (!(given.getD empty).loosensNegation) ++ [])) := by
    simp [Effective.negationText, Effective.opening, Effective.closing, hstart, hend,
      loosensNegation_resolve]
  rw [htext] at hread
  obtain rfl := read?_bareNegation halone hread
  obtain ⟨guard, hguard, rfl⟩ := of_ofReading?_loop hplan
  exact ⟨guard, hguard, hmatcher⟩

/-- The dot stands for every character under `s`, else for all but the line feed. -/
theorem contains_dot_iff (flags : Flags) (c : Char) :
    flags.modes.dot.contains c = true ↔ flags.dotAll = true ∨ c ≠ '\n' := by
  cases hdot : flags.dotAll with
  | true => simp [Modes.dot, Flags.modes, hdot, contains_any]
  | false =>
    have hfeed : c = '\n' ↔ c.toNat = 10 :=
      ⟨fun hc => hc ▸ rfl, fun hc => Char.toNat_inj.mp hc⟩
    simp only [Modes.dot, Flags.modes, hdot, CharClass.contains, CharClass.notLineFeed,
      CharClass.holds, Bool.false_eq_true, if_false, false_or, ne_eq, hfeed, Bool.not_eq_true',
      Bool.and_eq_false_iff, decide_eq_false_iff_not]
    omega

theorem forall_passable_iff {flags : Flags} {haystack : Haystack} {blocked : Nat → Prop} :
    (∀ i < haystack.size, Passable haystack flags.modes.dot blocked i) ↔
      (flags.dotAll = true ∨ '\n' ∉ haystack.toList) ∧ ∀ i < haystack.size, ¬ blocked i := by
  have hall : (∀ i < haystack.size, ∃ c, haystack[i]? = some c ∧
      flags.modes.dot.contains c = true) ↔ flags.dotAll = true ∨ '\n' ∉ haystack.toList := by
    simp only [contains_dot_iff]
    constructor
    · intro hdot
      by_contra hnot
      obtain ⟨hnone, hfeed⟩ := not_or.mp hnot
      obtain ⟨i, hi, hget⟩ := Array.mem_iff_getElem.mp (Array.mem_toList_iff.mp (not_not.mp hfeed))
      obtain ⟨c, hc, hmember⟩ := hdot i hi
      rw [Array.getElem?_eq_getElem hi, hget] at hc
      obtain rfl := Option.some.inj hc
      exact hmember.elim hnone fun hne => hne rfl
    · intro hdot i hi
      refine ⟨haystack[i], Array.getElem?_eq_getElem hi, hdot.imp_right fun hnone hfeed => ?_⟩
      exact hnone (hfeed ▸ Array.getElem_mem_toList hi)
  rw [← hall, ← forall₂_and]
  rfl

/-- A negation between anchors matches a text that its loop can consume. -/
theorem isMatch_iff_of_blocks {guard : Code} {count slots : Nat} {blocked : Nat → Prop}
    {haystack : String}
    (hmatcher : pattern.matcher = .backtracking
      (.program (searching (loopBetween pattern.flags.modes guard)) slots))
    (hmulti : pattern.flags.multiLine = false) (hguard : guard.Within count) (hopen : 0 < count)
    (hslots : count ≤ slots)
    (hblocks : Blocks haystack.toList.toArray guard (begunAt slots 0) (stepLimit - 6) blocked)
    (hends : pattern.outcome haystack ≠ .aborted) :
    pattern.isMatch haystack = true ↔
      (pattern.flags.dotAll = true ∨ '\n' ∉ haystack.toList) ∧
        ∀ i < haystack.length, ¬ blocked i := by
  have houtcome : pattern.outcome haystack =
      search (searching (loopBetween pattern.flags.modes guard)) slots haystack.toList.toArray := by
    rw [Pattern.outcome, hmatcher]
    rfl
  rw [houtcome] at hends
  rw [Pattern.isMatch, houtcome, beq_iff_eq,
    search_loopBetween_iff hmulti hguard hopen hslots hblocks hends, forall_passable_iff]
  rw [List.size_toArray, String.length_toList]

end Patternwork
