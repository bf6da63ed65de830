import Patternwork.Proofs.Lists.Negated
import Patternwork.Proofs.Negation.Overlap

namespace Patternwork

open Backtrack Settings

section Notations

variable {items : List (List Char)} {start stop wrap : Bool} {source letters text : String}
  {matcher : Matcher} {pattern : Pattern} {plan : Plan} {w : String}

/-- By whichever notation texts are read that stand for themselves, the same is found of them, and
    from the same positions. -/
theorem Matcher.agree_of_literal (hitems : items ≠ []) (hliteral : ∀ item ∈ items, Literal item)
    (hsource : source.toList = Item.anchored start stop (Item.branches wrap items))
    (hmatcher : ofText? source = some matcher) (hparse : Plan.parse? source.toList = some plan)
    (haystack : Haystack) :
    matcher.outcome haystack = plan.outcome haystack ∧
      ∀ p, matcher.outcomeAt haystack p = plan.outcomeAt haystack p := by
  rw [ofText?] at hmatcher
  cases hregular : Regular.parse? source.toList with
  | none =>
    rw [hregular, hparse] at hmatcher
    obtain rfl := Option.some.inj hmatcher
    exact ⟨rfl, fun _ => rfl⟩
  | some a =>
    rw [hregular] at hmatcher
    obtain rfl := Option.some.inj hmatcher
    rw [hsource] at hregular hparse
    obtain rfl := Regular.eq_words_of_parse? hitems hliteral hregular
    obtain ⟨parts, hparts, rfl⟩ := eq_regular_of_parse?_anchored hitems hliteral hparse
    have hreach (starts : List Nat) :
        (Regular.seqs (Regular.anchor start .textStart ++
          (Regular.words items :: Regular.anchor stop .textEnd))).reach haystack starts =
        (Regular.seqs (Regular.anchor start .textStart ++
          (parts ++ Regular.anchor stop .textEnd))).reach haystack starts := by
      simp only [Regular.reach_seqs_append, Regular.reach_seqs_cons, hparts]
    constructor
    · rw [outcome, Plan.outcome, Regular.isMatch, Regular.isMatch, hreach]
    · intro p
      simp only [outcomeAt, Plan.outcomeAt, hreach]

/-- A text that stands for itself is an alternative of its own. -/
theorem literal_singleton (hliteral : Literal text.toList) :
    ∀ item ∈ [text.toList], Literal item :=
  List.forall_mem_singleton.mpr hliteral

theorem Item.branches_singleton (item : List Char) : branches false [item] = item := rfl

/-- A word is matched alike by a compiled pattern and by the plan of the same text. -/
theorem Pattern.agree_of_literal (hliteral : Literal text.toList)
    (hcompile : compile source letters = .ok pattern) (hnone : pattern.flags.inlineGroup = "")
    (hsource : source.toList = Item.anchored start stop text.toList)
    (hparse : Plan.parse? source.toList = some plan) (haystack : Haystack) :
    pattern.matcher.outcome haystack = plan.outcome haystack ∧
      ∀ p, pattern.matcher.outcomeAt haystack p = plan.outcomeAt haystack p := by
  have hmatcher := ofText?_of_compile_eq_ok hcompile
  rw [hnone, String.empty_append] at hmatcher
  rw [← Item.branches_singleton text.toList] at hsource
  exact Matcher.agree_of_literal (List.cons_ne_nil _ _) (literal_singleton hliteral)
    hsource hmatcher hparse haystack

/-- A text that stands for itself is matched as a word where no backtracking is needed. -/
theorem Pattern.eq_word_of_literal (hliteral : Literal text.toList)
    (hcompile : compile source letters = .ok pattern) (hnone : pattern.flags.inlineGroup = "")
    (hsource : source.toList = Item.anchored false false text.toList)
    (hregular : pattern.isBacktracking = false) :
    pattern.matcher = .regular (Regular.words [text.toList]) := by
  rcases matcher_cases hcompile with ⟨a, hparse, hmatcher⟩ | ⟨plan, _, hmatcher⟩
  · rw [hnone, String.toList_empty, List.nil_append, hsource,
      ← Item.branches_singleton text.toList] at hparse
    rw [hmatcher, Regular.eq_words_of_parse? (List.cons_ne_nil _ _)
      (literal_singleton hliteral) hparse]
    rfl
  · rw [isBacktracking, hmatcher] at hregular
    cases hregular

/-- The plan of a text that stands for itself is to match it as a word. -/
theorem Backtrack.Plan.eq_word_of_literal (hliteral : Literal text.toList)
    (hparse : parse? text.toList = some plan) :
    plan = .regular (Regular.words [text.toList]) := by
  rw [← Item.branches_singleton text.toList] at hparse
  exact eq_regular_of_parse?_branches (List.cons_ne_nil _ _) (literal_singleton hliteral) hparse

end Notations

section Negations

variable {text : String} {given containing : Option Settings} {shared plain : Shared}
  {whole : Pattern} {w : String}

/-- The strict negation of a word matches on one line whatever the word as a whole does not. -/
theorem isMatch_strictNegation_of_literal (hmakes : Makes text given shared)
    (hliteral : Literal text.toList) (hne : text ≠ "") (hflags : (resolve given).flags = "")
    (hnegated : (resolve given).negated = true)
    (hstrict : (given.getD empty).loosensNegation = false) (hspans : SpansText given)
    (hends : shared.pattern.outcome w ≠ .aborted)
    (hwhole : Pattern.compile ("^(?:" ++ text ++ ")$") "" = .ok whole) :
    shared.pattern.isMatch w = true ↔ '\n' ∉ w.toList ∧ whole.isMatch w = false := by
  have hgroup := inlineGroup_eq_empty hmakes hflags
  have hread := read?_branches false (List.cons_ne_nil _ _) (literal_singleton hliteral)
  rw [Item.branches_singleton, ← List.nil_append text.toList, ← String.toList_empty,
    ← hgroup] at hread
  obtain ⟨anchored, hanchored, hmatch⟩ :=
    exists_isMatch_iff_of_strict_of_read hmakes.compiles hread hnegated hstrict hspans hends
  have hsource : ("^(?:" ++ text ++ ")$").toList = Item.anchored true true text.toList := by
    simp [Item.anchored]
  rw [hgroup, String.empty_append] at hanchored
  have hnone : whole.flags.inlineGroup = "" := by
    rw [Option.some.inj ((Pattern.of_compile_eq_ok hwhole).2.1.symm.trans rfl)]
    rfl
  have hsame : whole.outcome w = anchored.outcome w.toList.toArray :=
    (Pattern.agree_of_literal hliteral hwhole hnone hsource hanchored _).1
  have hlisted : anchored.outcome w.toList.toArray = .matched ↔ w.toList ∈ [text.toList] := by
    rw [hsource, ← Item.branches_singleton text.toList] at hanchored
    exact (anchored.outcome_eq_matched_iff_listed (List.cons_ne_nil _ _)
      (literal_singleton hliteral) hanchored _).trans listed_whole
  refine hmatch.trans (and_congr (by simp [hmakes.flags_eq_empty hflags]) ?_)
  rw [Pattern.isMatch, hsame, or_iff_right_of_imp]
  · simp
  · rintro rfl hmatched
    exact hne (by simpa using hlisted.mp hmatched)

/-- No text is matched both by a word as a whole and by its strict negation. -/
theorem isMatch_strictNegation_eq_false_of_literal {negation : Shared}
    (hliteral : Literal text.toList) (hne : text ≠ "")
    (halone : (Plan.parse? text.toList).isSome = true) (hplain : Makes text none plain)
    (hnegation : Makes text (some (empty.withNegate true)) negation)
    (hmatch : plain.pattern.isMatch w = true) : negation.pattern.isMatch w = false := by
  refine Bool.eq_false_iff.mpr fun hnegated => ?_
  have hcompile := compileText_eq_ok_some_iff.mp hplain.compiles
  rw [assembled_none] at hcompile
  have hsource : ("^(?:" ++ text ++ ")$").toList = Item.anchored true true text.toList := by
    simp [Item.anchored]
  have hgroup := inlineGroup_eq_empty hplain (by decide)
  obtain rfl := eq_empty_of_isMatch halone hplain hnegation
    (fun _ _ hanchored =>
      (Pattern.agree_of_literal hliteral hcompile hgroup hsource hanchored _).1) hmatch hnegated
  have hmatcher := Pattern.ofText?_of_compile_eq_ok hcompile
  rw [hgroup, String.empty_append] at hmatcher
  rw [← Item.branches_singleton text.toList] at hsource
  have hlisted := (Matcher.outcome_eq_matched_iff_listed (List.cons_ne_nil _ _)
    (literal_singleton hliteral) hsource hmatcher _).mp (beq_iff_eq.mp hmatch)
  exact hne (by simpa [listed_whole] using hlisted)

/-- No text in which a word is found is matched by its loose negation. -/
theorem isMatch_looseNegation_eq_false_of_literal {containing without : Shared} {alone : Plan}
    (hliteral : Literal text.toList) (hne : text ≠ "")
    (halone : Plan.parse? text.toList = some alone)
    (hcontaining : Makes text (some (empty.withContains true)) containing)
    (hwithout : Makes text (some ((empty.withContains true).withNegate true)) without)
    (hmatch : containing.pattern.isMatch w = true) : without.pattern.isMatch w = false := by
  refine Bool.eq_false_iff.mpr fun hnegated => ?_
  have hword := Plan.eq_word_of_literal hliteral halone
  have hplainly : ContainsPlainly (some (empty.withContains true)) none :=
    ⟨by decide, by decide, by decide⟩
  have hcompile := compileText_eq_ok_some_iff.mp hcontaining.compiles
  rw [hplainly.assembled_eq] at hcompile
  have hagree (hregular : containing.pattern.isBacktracking = false) :
      Matcher.AgreeOn w containing.pattern.matcher (.backtracking alone) := by
    rw [hword, Pattern.eq_word_of_literal hliteral hcompile
      (inlineGroup_eq_empty hcontaining (by decide)) (by simp [Item.anchored]) hregular]
    exact fun _ _ => Iff.rfl
  obtain ⟨hend, _⟩ := outcomeAt_of_isMatch halone hcontaining hwithout hagree
    (by simp [hword, Plan.backtracks]) hmatch hnegated
  rw [hword, outcomeAt_words_iff (List.cons_ne_nil _ _)] at hend
  obtain ⟨_, hitem, hbegins⟩ := hend
  rw [← String.length_toList, List.drop_length, List.prefix_nil] at hbegins
  exact hne (by simpa [hbegins] using hitem)

end Negations

end Patternwork
