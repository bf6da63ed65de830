import Patternwork.Proofs.Lists.Literal
import Patternwork.Proofs.Negation.Meaning

namespace Patternwork

open Backtrack Settings

/-- A record of just some options; only `wrap` may be given besides. -/
def Settings.Only (given : Option Settings) (options : List (String × Setting)) : Prop :=
  ∀ name ≠ Name.wrap, (given.getD empty).get? name = options.lookup name

namespace Settings.Only

variable {given : Option Settings} {options : List (String × Setting)} {name : String}

theorem bool?_eq (honly : Only given options) (hname : name ≠ Name.wrap) :
    (given.getD empty).bool? name = (options.lookup name).bind Setting.bool? := by
  rw [bool?, honly name hname]

/-- Options that ask for no flags leave a pattern without. -/
theorem flags_eq_empty (honly : Only given options) (hflags : options.lookup Name.flags = none)
    (hnocase : options.lookup Name.nocase = none) : (resolve given).flags = "" := by
  have htext : (given.getD empty).truthyText? Name.flags = none := by
    rw [truthyText?, honly _ (by decide), hflags]
    rfl
  have hcase : (given.getD empty).isTrue Name.nocase = false := by
    rw [isTrue, honly.bool?_eq (by decide), hnocase]
    rfl
  rw [flags_resolve, flagLetters, htext, hcase]
  rfl

/-- A record without anchor options, flags and quantifier, in which containment stands for
    loose negation if it stands at all, spans a text. -/
theorem spansText (honly : Only given options)
    (hnone : ∀ name ∈ [Name.strict, Name.strictOpen, Name.strictClose, Name.endChar, Name.flags,
      Name.nocase], options.lookup name = none)
    (hcontains : options.lookup Name.contains = none ∨
      options.lookup Name.negate = some (.bool true)) : SpansText given := by
  have hfalse {name : String} (hname : name ≠ Name.wrap) (hlookup : options.lookup name = none) :
      (given.getD empty).isFalse name = false := by
    rw [isFalse, honly.bool?_eq hname, hlookup]
    rfl
  have hdrops : (given.getD empty).dropsAnchors = false := by
    rw [dropsAnchors, hfalse (by decide) (hnone _ (by simp)), isTrue, isTrue,
      honly.bool?_eq (by decide), honly.bool?_eq (by decide)]
    rcases hcontains with hcontains | hnegate
    · rw [hcontains]
      rfl
    · rw [hnegate]
      simp [Setting.bool?_bool]
  constructor
  case anchoredStart =>
    rw [anchoredStart_resolve, hdrops, hfalse (by decide) (hnone _ (by simp))]
    rfl
  case anchoredEnd =>
    rw [anchoredEnd_resolve, hdrops, hfalse (by decide) (hnone _ (by simp))]
    rfl
  case noQuantifier =>
    rw [truthyText?, honly _ (by decide), hnone _ (by simp)]
    rfl
  case singleLine =>
    rw [honly.flags_eq_empty (hnone _ (by simp)) (hnone _ (by simp))]
    decide

end Settings.Only

section

variable {call : Call} {texts : List String} {shared : Shared} {w : String}

/-- A list that is negated strictly matches the texts on one line that are not in it. -/
theorem isMatch_iff_not_mem (hyields : call.Yields shared) (hlists : call.Lists texts)
    (htexts : texts ≠ []) (hliteral : ∀ text ∈ texts, text ≠ "" ∧ Literal text.toList)
    (hflags : (resolve call.given).flags = "") (hspans : SpansText call.given)
    (hnegated : (resolve call.given).negated = true)
    (hstrict : (call.given.getD empty).loosensNegation = false)
    (hends : shared.pattern.outcome w ≠ .aborted) :
    shared.pattern.isMatch w = true ↔ '\n' ∉ w.toList ∧ w ∉ texts := by
  obtain ⟨text, wrap, hmakes, hnone, htext⟩ := exists_makes_branches hyields hlists hflags
  have hitems : texts.map String.toList ≠ [] := by simpa using htexts
  have hitem := literal_of_mem_map fun text hmem => (hliteral text hmem).2
  have hread := read?_branches wrap hitems hitem
  rw [← htext] at hread
  have hinput : shared.pattern.flags.inlineGroup = "" := by
    rw [hnone, Flags.inlineGroup_empty]
  obtain ⟨anchored, hanchored, hmatch⟩ := exists_isMatch_iff_of_strict_of_read hmakes.compiles
    (by rw [hinput]; exact hread) hnegated hstrict hspans hends
  have htoList : ("^(?:" ++ text ++ ")$").toList =
      Item.anchored true true (Item.branches wrap (texts.map String.toList)) := by
    rw [← htext]
    simp [Item.anchored]
  rw [hinput, String.empty_append, htoList] at hanchored
  have hlisted := anchored.outcome_eq_matched_iff_listed hitems hitem hanchored w.toList.toArray
  have hmem : w.toList ∈ texts.map String.toList ↔ w ∈ texts := by
    simp [String.toList_inj]
  rw [listed_whole, hmem] at hlisted
  refine hmatch.trans (and_congr (by simp [hnone]) ((or_congr_right hlisted.not).trans ?_))
  exact or_iff_right_of_imp fun hempty hmem => (hliteral w hmem).1 hempty

/-- A text contains a word that begins somewhere before the end of the text. -/
theorem exists_isPrefix_drop_iff {item text : List Char} (hitem : item ≠ []) :
    (∃ i < text.length, item <+: text.drop i) ↔ item <:+: text := by
  rw [List.infix_iff_prefix_suffix]
  constructor
  · rintro ⟨i, _, hbegins⟩
    exact ⟨_, hbegins, List.drop_suffix i text⟩
  · rintro ⟨after, hbegins, hsuffix⟩
    have hlength := hsuffix.length_le
    have hne : after.length ≠ 0 := by
      intro hzero
      rw [List.length_eq_zero_iff.mp hzero] at hbegins
      exact hitem (List.prefix_nil.mp hbegins)
    rw [List.suffix_iff_eq_drop.mp hsuffix] at hbegins
    exact ⟨_, by omega, hbegins⟩

/-- A list of words matches at a position where one of them begins. -/
theorem outcomeAt_words_iff {items : List (List Char)} (hitems : items ≠ []) {text : Haystack}
    {i : Nat} : (Plan.regular (Regular.words items)).outcomeAt text i = .matched ↔
      ∃ item ∈ items, item <+: text.toList.drop i := by
  have hreach : (Plan.regular (Regular.words items)).outcomeAt text i = .matched ↔
      ∃ q, q ∈ (Regular.words items).reach text [i] := by
    simp [Plan.outcomeAt, List.eq_nil_iff_forall_not_mem]
  simp only [hreach, Regular.mem_reach_words hitems]
  constructor
  · rintro ⟨_, item, hmem, hbegins, _⟩
    exact ⟨item, hmem, hbegins⟩
  · rintro ⟨item, hmem, hbegins⟩
    exact ⟨_, item, hmem, hbegins, rfl⟩

/-- A list that is negated loosely matches the texts on one line that contain nothing in it. -/
theorem isMatch_iff_contains_none (hyields : call.Yields shared) (hlists : call.Lists texts)
    (htexts : texts ≠ []) (hliteral : ∀ text ∈ texts, text ≠ "" ∧ Literal text.toList)
    (hflags : (resolve call.given).flags = "") (hspans : SpansText call.given)
    (hnegated : (resolve call.given).negated = true)
    (hloose : (call.given.getD empty).loosensNegation = true)
    (hends : shared.pattern.outcome w ≠ .aborted) :
    shared.pattern.isMatch w = true ↔
      '\n' ∉ w.toList ∧ ∀ text ∈ texts, ¬ text.toList <:+: w.toList := by
  obtain ⟨text, wrap, hmakes, hnone, htext⟩ := exists_makes_branches hyields hlists hflags
  have hitems : texts.map String.toList ≠ [] := by simpa using htexts
  have hread := read?_branches wrap hitems
    (literal_of_mem_map fun text hmem => (hliteral text hmem).2)
  rw [← htext] at hread
  have hinput : shared.pattern.flags.inlineGroup = "" := by
    rw [hnone, Flags.inlineGroup_empty]
  obtain ⟨a, hregular, hplan⟩ := exists_plan_of_loose hmakes.compiles
    (by rw [hinput]; exact hread) hnegated hloose hspans (isHard_listTree _ _)
  obtain rfl : Regular.words (texts.map String.toList) = a :=
    Option.some.inj ((regular?_listTree hitems).symm.trans hregular)
  have hparse : Plan.parse? (shared.pattern.flags.inlineGroup ++ text).toList =
      some (.regular (Regular.words (texts.map String.toList))) := by
    rw [hinput, String.empty_append, Plan.parse?, hread]
    exact hplan
  obtain ⟨look, _, _, hagree, hmatch⟩ :=
    exists_isMatch_iff_of_loose hmakes.compiles hparse hnegated hloose hspans hends
  have hlook (i : Nat) (hi : i < w.length) : look.outcomeAt w.toList.toArray i = .matched ↔
      ∃ text ∈ texts, text.toList <+: w.toList.drop i := by
    refine (hagree rfl i hi.le).trans ((outcomeAt_words_iff hitems).trans ?_)
    simp only [List.mem_map, exists_exists_and_eq_and]
  refine hmatch.trans (and_congr (by simp [hnone]) ?_)
  constructor
  · intro hfree text hmem hinside
    have hne : text.toList ≠ [] := by simpa using (hliteral text hmem).1
    obtain ⟨i, hi, hbegins⟩ := (exists_isPrefix_drop_iff hne).mpr hinside
    rw [String.length_toList] at hi
    exact hfree i hi ((hlook i hi).mpr ⟨text, hmem, hbegins⟩)
  · intro hfree i hi hmatched
    obtain ⟨text, hmem, hbegins⟩ := (hlook i hi).mp hmatched
    exact hfree text hmem (hbegins.isInfix.trans (List.drop_suffix i w.toList).isInfix)

/-- What a negated list of texts that stand for themselves matches: with strict negation the
    texts on one line that are not in it, with loose negation those that contain nothing in it. -/
theorem isMatch_negated_list (hyields : call.Yields shared) (hlists : call.Lists texts)
    (htexts : texts ≠ []) (hliteral : ∀ text ∈ texts, text ≠ "" ∧ Literal text.toList)
    (hends : shared.pattern.outcome w ≠ .aborted) :
    (Only call.given [(Name.negate, .bool true)] →
      (shared.pattern.isMatch w = true ↔ '\n' ∉ w.toList ∧ w ∉ texts)) ∧
    (Only call.given [(Name.negate, .bool true), (Name.contains, .bool true)] ∨
        Only call.given [(Name.strictNegate, .bool false)] →
      (shared.pattern.isMatch w = true ↔
        '\n' ∉ w.toList ∧ ∀ text ∈ texts, ¬ text.toList <:+: w.toList)) := by
  refine ⟨fun honly => ?_, ?_⟩
  · refine isMatch_iff_not_mem hyields hlists htexts hliteral
      (honly.flags_eq_empty (by decide) (by decide)) (honly.spansText (by decide) (by decide))
      ?_ ?_ hends
    · rw [negated_resolve, asksNegation, isTruthy, honly _ (by decide)]
      rfl
    · rw [loosensNegation, Settings.isTrue, Settings.isFalse, honly.bool?_eq (by decide),
        honly.bool?_eq (by decide)]
      rfl
  · rintro (honly | honly)
    all_goals
      refine isMatch_iff_contains_none hyields hlists htexts hliteral
        (honly.flags_eq_empty (by decide) (by decide)) (honly.spansText (by decide) (by decide))
        ?_ ?_ hends
    · rw [negated_resolve, asksNegation, isTruthy, honly _ (by decide)]
      rfl
    · rw [loosensNegation, Settings.isTrue, honly.bool?_eq (by decide)]
      rfl
    · rw [negated_resolve, asksNegation, honly.bool?_eq (by decide)]
      simp [List.lookup, Setting.bool?_bool]
    · rw [loosensNegation, Settings.isFalse, honly.bool?_eq (by decide)]
      simp [List.lookup, Setting.bool?_bool]

/-- Two words that are not grouped, negated, and a text that contains one of them. -/
theorem isMatch_negated_list_of_two :
    ∃ shared,
      Call.Yields ⟨.compile, .list [.text "ab", .text "c"],
        some ((empty.withWrap false).withNegate true)⟩ shared ∧
      (shared.pattern.isMatch "xc" = true ↔ '\n' ∉ "xc".toList ∧ "xc" ∉ ["ab", "c"]) := by
  obtain ⟨shared, hyields, hends⟩ :
      ∃ shared, Call.Yields ⟨.compile, .list [.text "ab", .text "c"],
        some ((empty.withWrap false).withNegate true)⟩ shared ∧
          shared.pattern.outcome "xc" ≠ .aborted :=
    exists_yields (by decide +kernel)
  have hlists := Call.Lists.list ["ab", "c"] (some ((empty.withWrap false).withNegate true))
  obtain ⟨hstrict, _⟩ := isMatch_negated_list hyields hlists (by decide) (by decide) hends
  refine ⟨shared, hyields, hstrict fun name hname => ?_⟩
  change ((empty.withWrap false).set Name.negate (.bool true)).get? name = _
  rw [get?_set, withWrap, get?_set, if_neg hname, List.lookup_cons]
  by_cases hnegate : name = Name.negate
  · simp [hnegate]
  · rw [if_neg hnegate, beq_eq_false_iff_ne.mpr hnegate]
    rfl

end

end Patternwork
