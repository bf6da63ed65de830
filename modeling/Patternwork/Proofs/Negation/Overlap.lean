import Patternwork.Proofs.Negation.Meaning

namespace Patternwork

open Backtrack Settings

variable {text w : String} {alone : Plan}

/-- Without anchors a negation matches every text. -/
theorem isMatch_of_bare {given : Option Settings} {pattern : Pattern}
    (hcompile : compileText text given = .ok (some pattern))
    (halone : Plan.parse? (pattern.flags.inlineGroup ++ text).toList = some alone)
    (hnegated : (resolve given).negated = true)
    (hquantifier : (given.getD empty).truthyText? Name.endChar = none)
    (hstart : (resolve given).anchoredStart = false) (hend : (resolve given).anchoredEnd = false)
    (hends : pattern.outcome w ≠ .aborted) : pattern.isMatch w = true := by
  obtain ⟨reading, hread, _⟩ := Option.bind_eq_some_iff.mp halone
  rw [String.toList_append] at hread
  obtain ⟨guard, hguard, hmatcher⟩ :=
    exists_bareMatcher hcompile hnegated hquantifier hstart hend hread
  have htree : (guardTree pattern.flags.modes (!(given.getD empty).loosensNegation)
      reading.tree).Within reading.groups reading.loops := by
    cases (given.getD empty).loosensNegation
    · exact anchoredTree_within (read?_within hread)
    · exact read?_within hread
  have hwithin : guard.Within (Plan.groupSlots reading + reading.loops) :=
    compile?_within rfl _ guard htree hguard
  have hopen : 0 < Plan.groupSlots reading + reading.loops := by simp [Plan.groupSlots]
  have houtcome : pattern.outcome w =
      search (searching (.star true (guard.guarding pattern.flags.modes.dot)))
        (Plan.groupSlots reading + (reading.loops + 1)) w.toList.toArray := by
    rw [Pattern.outcome, hmatcher]
    rfl
  rw [houtcome] at hends
  rw [Pattern.isMatch, houtcome, beq_iff_eq]
  exact search_star_guarding_eq hwithin hopen (by omega)
    (blocks_ahead hwithin hopen (by omega) (Nat.le_refl _) (Nat.le_refl _)) hends

section Both

variable {given : Option Settings} {shared plain negation : Shared}

/-- A match was not given up. -/
theorem Pattern.outcome_ne_aborted {pattern : Pattern} (hmatch : pattern.isMatch w = true) :
    pattern.outcome w ≠ .aborted := by
  rw [beq_iff_eq.mp hmatch]
  exact Outcome.noConfusion

theorem assembled_none (text : String) :
    (resolve none).assembled text = "^(?:" ++ text ++ ")$" := by
  have hjoin : (resolve none).assembled text = ("^" ++ "(?:") ++ text ++ (")" ++ "$") :=
    String.append_assoc
  exact hjoin

/-- A pattern between anchors and its negation both match only the empty text. -/
theorem eq_empty_of_isMatch (halone : (Plan.parse? text.toList).isSome = true)
    (hplain : Makes text none plain)
    (hnegation : Makes text (some (empty.withNegate true)) negation)
    (hagree : plain.pattern.isBacktracking = false →
      ∀ anchored ∈ Plan.parse? ("^(?:" ++ text ++ ")$").toList,
        plain.pattern.outcome w = anchored.outcome w.toList.toArray)
    (hmatch : plain.pattern.isMatch w = true) (hnegated : negation.pattern.isMatch w = true) :
    w = "" := by
  have hplainGroup := inlineGroup_eq_empty hplain (by decide)
  have hgroup := inlineGroup_eq_empty hnegation (by decide)
  obtain ⟨alone, hplan⟩ := Option.isSome_iff_exists.mp halone
  obtain ⟨anchored, hanchored, hiff⟩ := exists_isMatch_iff_of_strict
    hnegation.compiles (by rw [hgroup, String.empty_append, hplan])
    (by decide) (by decide) ⟨by decide, by decide, by decide, by decide⟩
    (Pattern.outcome_ne_aborted hnegated)
  change Plan.parse? (negation.pattern.flags.inlineGroup ++ _).toList = _ at hanchored
  rw [hgroup, String.empty_append] at hanchored
  have hcompile := compileText_eq_ok_some_iff.mp hplain.compiles
  rw [assembled_none] at hcompile
  have houtcome := Pattern.outcome_eq_of_parse? hcompile
    (by rw [hplainGroup, String.empty_append, hanchored]) fun hregular =>
      hagree hregular anchored hanchored
  have hmatched : plain.pattern.outcome w = .matched := beq_iff_eq.mp hmatch
  exact (hiff.mp hnegated).2.resolve_right fun hunmatched =>
    hunmatched (houtcome.symm.trans hmatched)

/-- A pattern that is searched for and its negation both match only where the pattern matches at
    the end of the text, and nowhere before. -/
theorem outcomeAt_of_isMatch (halone : Plan.parse? text.toList = some alone)
    (hplain : Makes text (some (empty.withContains true)) plain)
    (hnegation : Makes text (some ((empty.withContains true).withNegate true)) negation)
    (hagree : plain.pattern.isBacktracking = false →
      Matcher.AgreeOn w plain.pattern.matcher (.backtracking alone))
    (hlook : alone.backtracks = true → ∀ look ∈ Plan.parse? ("(?=" ++ text ++ ")").toList,
      Matcher.AgreeOn w (.backtracking look) (.backtracking alone))
    (hmatch : plain.pattern.isMatch w = true) (hnegated : negation.pattern.isMatch w = true) :
    alone.outcomeAt w.toList.toArray w.length = .matched ∧
      ∀ i < w.length, alone.outcomeAt w.toList.toArray i ≠ .matched := by
  have hplainGroup := inlineGroup_eq_empty hplain (by decide)
  have hgroup := inlineGroup_eq_empty hnegation (by decide)
  obtain ⟨look, hparse, hgrouped, hhanded, hiff⟩ := exists_isMatch_iff_of_loose
    hnegation.compiles (by rw [hgroup, String.empty_append, halone])
    (by decide) (by decide) ⟨by decide, by decide, by decide, by decide⟩
    (Pattern.outcome_ne_aborted hnegated)
  change Plan.parse? (negation.pattern.flags.inlineGroup ++ _).toList = _ at hparse hgrouped
  rw [hgroup, String.empty_append] at hparse
  rw [hgroup, ← hplainGroup] at hgrouped
  have hsame : Matcher.AgreeOn w (.backtracking look) (.backtracking alone) :=
    alone.backtracks.eq_false_or_eq_true.elim (fun h => hlook h look hparse) hhanded
  have hnone : ∀ i < w.length, alone.outcomeAt w.toList.toArray i ≠ .matched := fun i hi =>
    mt (hsame i hi.le).mpr ((hiff.mp hnegated).2 i hi)
  have hcontaining : ContainsPlainly (some (empty.withContains true))
      (some ((empty.withContains true).withNegate true)) := ⟨by decide, by decide, by decide⟩
  obtain ⟨i, hi, hmatched⟩ := (hcontaining.isMatch_iff hplain hgrouped hagree
    (Pattern.outcome_ne_aborted hmatch)).mp hmatch
  rcases Nat.eq_or_lt_of_le hi with rfl | hlt
  · exact ⟨hmatched, hnone⟩
  · exact absurd hmatched (hnone i hlt)

/-- What a pattern and its negation both match: between anchors the empty text alone, under
    containment a text in which the pattern matches at the end and nowhere before. -/
theorem matched_by_both {containing without : Shared} (halone : Plan.parse? text.toList = some alone)
    (hplain : Makes text none plain)
    (hnegation : Makes text (some (empty.withNegate true)) negation)
    (hcontaining : Makes text (some (empty.withContains true)) containing)
    (hwithout : Makes text (some ((empty.withContains true).withNegate true)) without)
    (hwhole : plain.pattern.isBacktracking = false →
      ∀ anchored ∈ Plan.parse? ("^(?:" ++ text ++ ")$").toList,
        plain.pattern.outcome w = anchored.outcome w.toList.toArray)
    (hfound : containing.pattern.isBacktracking = false →
      Matcher.AgreeOn w containing.pattern.matcher (.backtracking alone))
    (hlook : alone.backtracks = true → ∀ look ∈ Plan.parse? ("(?=" ++ text ++ ")").toList,
      Matcher.AgreeOn w (.backtracking look) (.backtracking alone)) :
    (plain.pattern.isMatch w = true → negation.pattern.isMatch w = true → w = "") ∧
      (containing.pattern.isMatch w = true → without.pattern.isMatch w = true →
        alone.outcomeAt w.toList.toArray w.length = .matched ∧
          ∀ i < w.length, alone.outcomeAt w.toList.toArray i ≠ .matched) :=
  ⟨eq_empty_of_isMatch (Option.isSome_iff_exists.mpr ⟨alone, halone⟩) hplain hnegation hwhole,
    outcomeAt_of_isMatch halone hcontaining hwithout hfound hlook⟩

/-- A pattern that may match nothing, and the empty text: pattern and negation both match it. -/
theorem matched_by_both_star :
    ∃ plain negation containing without,
      Makes "a*" none plain ∧ plain.pattern.isMatch "" = true ∧
      Makes "a*" (some (empty.withNegate true)) negation ∧
      negation.pattern.isMatch "" = true ∧
      Makes "a*" (some (empty.withContains true)) containing ∧
      containing.pattern.isMatch "" = true ∧
      Makes "a*" (some ((empty.withContains true).withNegate true)) without ∧
      without.pattern.isMatch "" = true ∧
      ∃ alone ∈ Plan.parse? "a*".toList, alone.outcomeAt #[] 0 = .matched := by
  obtain ⟨plain, hplain, hmatch, hwhole⟩ :
      ∃ plain, Makes "a*" none plain ∧ plain.pattern.isMatch "" = true ∧
        ∀ anchored ∈ Plan.parse? ("^(?:" ++ "a*" ++ ")$").toList,
          plain.pattern.outcome "" = anchored.outcome "".toList.toArray :=
    exists_makes (by decide +kernel)
  obtain ⟨negation, hnegation, hnegated⟩ :
      ∃ negation, Makes "a*" (some (empty.withNegate true)) negation ∧
        negation.pattern.isMatch "" = true := exists_makes (by decide +kernel)
  obtain ⟨containing, hcontaining, hfound, hagree⟩ :
      ∃ containing, Makes "a*" (some (empty.withContains true)) containing ∧
        containing.pattern.isMatch "" = true ∧ ∀ alone ∈ Plan.parse? "a*".toList,
          alone.backtracks = false ∧
            Matcher.AgreeOn "" containing.pattern.matcher (.backtracking alone) :=
    exists_makes (by decide +kernel)
  obtain ⟨without, hwithout, hnone⟩ :
      ∃ without, Makes "a*" (some ((empty.withContains true).withNegate true)) without ∧
        without.pattern.isMatch "" = true := exists_makes (by decide +kernel)
  obtain ⟨alone, halone⟩ : ∃ alone, Plan.parse? "a*".toList = some alone :=
    Option.isSome_iff_exists.mp (by decide +kernel)
  obtain ⟨hregular, hsame⟩ := hagree alone halone
  obtain ⟨_, hend⟩ := matched_by_both halone hplain hnegation hcontaining hwithout
    (fun _ => hwhole) (fun _ => hsame) (by simp [hregular])
  exact ⟨plain, negation, containing, without, hplain, hmatch, hnegation, hnegated, hcontaining,
    hfound, hwithout, hnone, alone, halone, (hend hfound hnone).1⟩

end Both

/-- Options that ask for texts without the pattern, and for nothing about anchors, the
    quantifier or the flags. -/
structure Settings.NegatesContainment (given : Option Settings) : Prop where
  contains : (given.getD empty).isTrue Name.contains = true
  asked : (resolve given).negated = true
  absent : ∀ name ∈ [Name.strict, Name.strictOpen, Name.strictClose, Name.endChar, Name.flags],
    (given.getD empty).get? name = none

section Containment

variable {given : Option Settings} {shared : Shared}

theorem Settings.NegatesContainment.isFalse_eq (hoptions : NegatesContainment given) {name : String}
    (hname : name ∈ [Name.strict, Name.strictOpen, Name.strictClose, Name.endChar, Name.flags]) :
    (given.getD empty).isFalse name = false := by
  simp [isFalse, bool?, hoptions.absent name hname]

theorem Settings.NegatesContainment.truthyText?_eq (hoptions : NegatesContainment given)
    {name : String}
    (hname : name ∈ [Name.strict, Name.strictOpen, Name.strictClose, Name.endChar, Name.flags]) :
    (given.getD empty).truthyText? name = none := by
  simp [truthyText?, hoptions.absent name hname]

/-- Where the negation is asked for by `negate` itself, both anchors are kept. -/
theorem Settings.NegatesContainment.spansText (hoptions : NegatesContainment given)
    (hexact : (given.getD empty).isTrue Name.negate = true) : SpansText given := by
  have hkept : (given.getD empty).dropsAnchors = false := by
    simp [dropsAnchors, hexact, hoptions.isFalse_eq]
  have hflags : (resolve given).flags.toList ⊆ ['i'] := by
    rw [flags_resolve, flagLetters, hoptions.truthyText?_eq (by simp)]
    split <;> simp
  constructor
  case anchoredStart => simp [anchoredStart_resolve, hkept, hoptions.isFalse_eq]
  case anchoredEnd => simp [anchoredEnd_resolve, hkept, hoptions.isFalse_eq]
  case noQuantifier => exact hoptions.truthyText?_eq (by simp)
  case singleLine => exact fun hmember => absurd (hflags hmember) (by decide)

/-- A negated containment rejects the texts in which the pattern is found if `negate` is exactly
    true. Asked for in any other way it has no anchors, and matches every text. -/
theorem isMatch_negatedContainment (hmakes : Makes text given shared)
    (halone : Plan.parse? (shared.pattern.flags.inlineGroup ++ text).toList = some alone)
    (hoptions : NegatesContainment given)
    (hlook : alone.backtracks = true →
      ∀ look ∈ Plan.parse? (shared.pattern.flags.inlineGroup ++ ("(?=" ++ text ++ ")")).toList,
        Matcher.AgreeOn w (.backtracking look) (.backtracking alone)) :
    ((given.getD empty).isTrue Name.negate = true →
        (∃ i < w.length, alone.outcomeAt w.toList.toArray i = .matched) →
          shared.pattern.isMatch w = false) ∧
      ((given.getD empty).isTrue Name.negate = false → shared.pattern.outcome w ≠ .aborted →
        shared.pattern.isMatch w = true) := by
  constructor
  case left =>
    rintro hexact ⟨i, hi, hfound⟩
    by_contra hnot
    have hmatch : shared.pattern.isMatch w = true := Bool.eq_true_of_not_eq_false hnot
    obtain ⟨look, hparse, _, hhanded, hiff⟩ := exists_isMatch_iff_of_loose hmakes.compiles halone
      hoptions.asked (by simp [loosensNegation, hoptions.contains]) (hoptions.spansText hexact)
      (Pattern.outcome_ne_aborted hmatch)
    have hsame : Matcher.AgreeOn w (.backtracking look) (.backtracking alone) :=
      alone.backtracks.eq_false_or_eq_true.elim (fun h => hlook h look hparse) hhanded
    exact (hiff.mp hmatch).2 i hi ((hsame i hi.le).mpr hfound)
  case right =>
    intro hinexact hends
    have hdrops : (given.getD empty).dropsAnchors = true := by
      simp [dropsAnchors, hoptions.contains, hinexact]
    have hmatch := isMatch_of_bare hmakes.compiles halone hoptions.asked
      (hoptions.truthyText?_eq (by simp)) (by simp [anchoredStart_resolve, hdrops])
      (by simp [anchoredEnd_resolve, hdrops]) hends
    exact hmatch

/-- A word, and a text in which it is found. -/
theorem isMatch_negatedContainment_foo :
    ∃ shared, Makes "foo" (some ((empty.withContains true).withNegate true)) shared ∧
      shared.pattern.isMatch "xfoo" = false := by
  obtain ⟨shared, hmakes, hflags⟩ :
      ∃ shared, Makes "foo" (some ((empty.withContains true).withNegate true)) shared ∧
        shared.pattern.flags.inlineGroup = "" := exists_makes (by decide +kernel)
  obtain ⟨alone, halone⟩ : ∃ alone, Plan.parse? "foo".toList = some alone :=
    Option.isSome_iff_exists.mp (by decide +kernel)
  have hfound : ∀ alone ∈ Plan.parse? "foo".toList, alone.backtracks = false ∧
      alone.outcomeAt "xfoo".toList.toArray 1 = .matched := by decide +kernel
  obtain ⟨hregular, hfound⟩ := hfound alone halone
  have hrejects := isMatch_negatedContainment (w := "xfoo") hmakes (by rw [hflags]; exact halone)
    ⟨by decide, by decide, by decide⟩ (by simp [hregular])
  exact ⟨shared, hmakes, hrejects.1 (by decide) ⟨1, by decide, hfound⟩⟩

/-- Negation asked for by a number: a text is matched in which the word is found. -/
theorem isMatch_containment_and_negation_foo :
    let asked := (empty.withContains true).set Name.negate (.int 1)
    ∃ plain shared, Makes "foo" (some (empty.withContains true)) plain ∧
      Makes "foo" (some asked) shared ∧ NegatesContainment (some asked) ∧
      plain.pattern.isMatch "foo" = true ∧ shared.pattern.isMatch "foo" = true := by
  intro asked
  obtain ⟨plain, hplain, hfound⟩ :
      ∃ plain, Makes "foo" (some (empty.withContains true)) plain ∧
        plain.pattern.isMatch "foo" = true := exists_makes (by decide +kernel)
  obtain ⟨shared, hmakes, hmatch⟩ :
      ∃ shared, Makes "foo" (some asked) shared ∧ shared.pattern.isMatch "foo" = true :=
    exists_makes (by decide +kernel)
  exact ⟨plain, shared, hplain, hmakes, ⟨by decide, by decide, by decide⟩, hfound, hmatch⟩

end Containment

end Patternwork
