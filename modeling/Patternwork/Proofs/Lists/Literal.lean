import Patternwork.Proofs.Backtrack.Reading.Literal
import Patternwork.Proofs.Flags
import Patternwork.Proofs.Regular.Literal
import Patternwork.Proofs.Settings.Resolution
import Patternwork.Proofs.Store.Yield

namespace Patternwork

open Settings

/-- The texts that a call asks for: its one text, or those of its list. -/
inductive Call.Lists : Call → List String → Prop
  | one (method : Method) (text : String) (given : Option Settings) :
      Lists ⟨method, .text text, given⟩ [text]
  | list (texts : List String) (given : Option Settings) :
      Lists ⟨.compile, .list (texts.map .text), given⟩ texts

theorem Call.Lists.exists_text? {call : Call} {texts : List String} (hlists : call.Lists texts) :
    ∃ wrap, call.text? = some (Item.join wrap (texts.map .text)) := by
  cases hlists with
  | one method text given =>
    refine ⟨false, ?_⟩
    have hjoin : Item.join false [.text text] = text := by simp [Item.join, Item.source]
    exact (congrArg some hjoin).symm
  | list texts given => exact ⟨wraps given, rfl⟩

/-- A text that is not negated is assembled between its anchors. -/
theorem Effective.toList_assembled {effective : Effective} (hplain : effective.negated = false)
    (text : String) :
    (effective.assembled text).toList =
      Item.anchored effective.anchoredStart effective.anchoredEnd text.toList := by
  unfold assembled body opening closing Item.anchored
  cases effective.anchoredStart <;> cases effective.anchoredEnd <;> simp [hplain]

section

variable {wrap start stop : Bool} {items : List (List Char)}

/-- One of the texts of a list stands between the ends that are anchored. -/
def Listed (start stop : Bool) (items : List (List Char)) (w : List Char) : Prop :=
  ∃ item ∈ items, ∃ before after, before ++ item ++ after = w ∧
    (start = true → before = []) ∧ (stop = true → after = [])

theorem Backtrack.Plan.outcome_regular_eq_matched {a : Regular} {text : Haystack} :
    (Plan.regular a).outcome text = .matched ↔ a.isMatch text = true := by
  cases hmatch : a.isMatch text <;> simp [outcome, hmatch]

theorem Backtrack.Plan.outcome_eq_matched_iff_listed {plan : Plan} (hitems : items ≠ [])
    (hliteral : ∀ item ∈ items, Literal item)
    (hparse : parse? (Item.anchored start stop (Item.branches wrap items)) = some plan)
    (text : Haystack) : plan.outcome text = .matched ↔ Listed start stop items text.toList := by
  obtain ⟨parts, hparts, rfl⟩ := eq_regular_of_parse?_anchored hitems hliteral hparse
  refine outcome_regular_eq_matched.trans
    (Iff.trans ?_ (Regular.isMatch_words_iff hitems start stop))
  simp only [Regular.isMatch, Regular.reach_seqs_append, Regular.reach_seqs_cons, hparts]

/-- However a list of texts that stand for themselves is matched, it matches where one of them
    stands. -/
theorem Matcher.outcome_eq_matched_iff_listed {source : String} {matcher : Matcher}
    (hitems : items ≠ []) (hliteral : ∀ item ∈ items, Literal item)
    (hsource : source.toList = Item.anchored start stop (Item.branches wrap items))
    (hmatcher : ofText? source = some matcher) (text : Haystack) :
    matcher.outcome text = .matched ↔ Listed start stop items text.toList := by
  rw [ofText?, hsource] at hmatcher
  cases hparse : Regular.parse? (Item.anchored start stop (Item.branches wrap items)) with
  | some a =>
    rw [hparse] at hmatcher
    obtain rfl := Option.some.inj hmatcher
    rw [Regular.eq_words_of_parse? hitems hliteral hparse]
    exact Backtrack.Plan.outcome_regular_eq_matched.trans
      (Regular.isMatch_words_iff hitems start stop)
  | none =>
    rw [hparse] at hmatcher
    obtain ⟨plan, hplan, rfl⟩ := Option.map_eq_some_iff.mp hmatcher
    exact plan.outcome_eq_matched_iff_listed hitems hliteral hplan text

theorem listed_whole {w : List Char} : Listed true true items w ↔ w ∈ items := by
  simp [Listed]

theorem listed_atEnd {w : List Char} :
    Listed false true items w ↔ ∃ item ∈ items, item <:+ w := by
  simp [Listed, List.IsSuffix]

theorem listed_atStart {w : List Char} :
    Listed true false items w ↔ ∃ item ∈ items, item <+: w := by
  simp [Listed, List.IsPrefix]

theorem listed_anywhere {w : List Char} :
    Listed false false items w ↔ ∃ item ∈ items, item <:+: w := by
  simp [Listed, List.IsInfix]

end

variable {call : Call} {texts : List String} {shared : Shared}

/-- A list without flags is compiled as alternatives. -/
theorem exists_makes_branches (hyields : call.Yields shared) (hlists : call.Lists texts)
    (hflags : (resolve call.given).flags = "") :
    ∃ text wrap, Makes text call.given shared ∧ shared.pattern.flags = {} ∧
      text.toList = Item.branches wrap (texts.map String.toList) := by
  obtain ⟨wrap, htext⟩ := hlists.exists_text?
  have hmakes := hyields.makes htext
  refine ⟨_, wrap, hmakes, hmakes.flags_eq_empty hflags, ?_⟩
  rw [Item.toList_join, List.map_map]
  rfl

theorem literal_of_mem_map (hliteral : ∀ text ∈ texts, Literal text.toList) :
    ∀ item ∈ texts.map String.toList, Literal item := by
  simpa using hliteral

/-- A list of texts that stand for themselves matches where its anchors let one of them stand,
    for every text that is searched. -/
theorem isMatch_iff_listed (hyields : call.Yields shared) (hlists : call.Lists texts)
    (htexts : texts ≠ []) (hliteral : ∀ text ∈ texts, Literal text.toList)
    (hplain : (call.given.getD empty).asksNegation = false)
    (hflags : (resolve call.given).flags = "") (w : String) :
    shared.pattern.isMatch w = true ↔
      Listed (resolve call.given).anchoredStart (resolve call.given).anchoredEnd
        (texts.map String.toList) w.toList := by
  obtain ⟨text, wrap, hmakes, hnone, htext⟩ := exists_makes_branches hyields hlists hflags
  have hcompile := compileText_eq_ok_some_iff.mp hmakes.compiles
  have hmatcher := Pattern.ofText?_of_compile_eq_ok hcompile
  dsimp only at hmatcher
  rw [hnone, Flags.inlineGroup_empty, String.empty_append] at hmatcher
  have hsource := Effective.toList_assembled ((negated_resolve call.given).trans hplain) text
  rw [htext] at hsource
  rw [Pattern.isMatch, beq_iff_eq]
  exact Matcher.outcome_eq_matched_iff_listed (by simpa using htexts)
    (literal_of_mem_map hliteral) hsource hmatcher _

/-- What a list of texts that stand for themselves matches, by the options that set its anchors. -/
theorem isMatch_literal_list (hyields : call.Yields shared) (hlists : call.Lists texts)
    (htexts : texts ≠ []) (hliteral : ∀ text ∈ texts, Literal text.toList)
    (hplain : (call.given.getD empty).asksNegation = false)
    (hflags : (resolve call.given).flags = "") (w : String) :
    let options := call.given.getD empty
    (options.isTrue Name.contains = true ∨ options.isFalse Name.strict = true →
      (shared.pattern.isMatch w = true ↔ ∃ text ∈ texts, text.toList <:+: w.toList)) ∧
    (options.isTrue Name.contains = false → options.isFalse Name.strict = false →
      (options.isFalse Name.strictOpen = false → options.isFalse Name.strictClose = false →
        (shared.pattern.isMatch w = true ↔ w ∈ texts)) ∧
      (options.isFalse Name.strictOpen = true → options.isFalse Name.strictClose = false →
        (shared.pattern.isMatch w = true ↔ ∃ text ∈ texts, text.toList <:+ w.toList)) ∧
      (options.isFalse Name.strictOpen = false → options.isFalse Name.strictClose = true →
        (shared.pattern.isMatch w = true ↔ ∃ text ∈ texts, text.toList <+: w.toList)) ∧
      (options.isFalse Name.strictOpen = true → options.isFalse Name.strictClose = true →
        (shared.pattern.isMatch w = true ↔ ∃ text ∈ texts, text.toList <:+: w.toList))) := by
  intro options
  have hmatch := isMatch_iff_listed hyields hlists htexts hliteral hplain hflags w
  have hnegate : options.isTrue Name.negate = false := by
    by_contra htrue
    have htruthy := isTruthy_of_isTrue (Bool.eq_true_of_not_eq_false htrue)
    simp [asksNegation, options, htruthy] at hplain
  have hdrops : options.dropsAnchors =
      (options.isTrue Name.contains || options.isFalse Name.strict) := by
    simp [dropsAnchors, hnegate]
  have hmem : w.toList ∈ texts.map String.toList ↔ w ∈ texts := by
    simp [String.toList_inj]
  rw [anchoredStart_resolve, anchoredEnd_resolve, hdrops] at hmatch
  refine ⟨fun hanywhere => ?_, fun hcontains hstrict => ⟨?_, ?_, ?_, ?_⟩⟩
  · rw [Bool.or_eq_true_iff.mpr hanywhere] at hmatch
    simpa [listed_anywhere] using hmatch
  all_goals
    intro hopen hclose
    simp only [options, hcontains, hstrict, hopen, hclose, Bool.or_false, Bool.or_true,
      Bool.not_false, Bool.not_true] at hmatch
  · exact hmatch.trans (listed_whole.trans hmem)
  · simpa [listed_atEnd] using hmatch
  · simpa [listed_atStart] using hmatch
  · simpa [listed_anywhere] using hmatch

/-- An open start, alternatives that are not grouped, and a text that ends with one of them. -/
theorem isMatch_literal_list_at_end :
    ∃ shared,
      Call.Yields ⟨.compile, .list [.text "ab", .text "c"],
        some ((empty.withWrap false).withStrictOpen false)⟩ shared ∧
      (shared.pattern.isMatch "xc" = true ↔
        ∃ text ∈ ["ab", "c"], text.toList <:+ "xc".toList) := by
  obtain ⟨shared, hyields, _⟩ :
      ∃ shared, Call.Yields ⟨.compile, .list [.text "ab", .text "c"],
        some ((empty.withWrap false).withStrictOpen false)⟩ shared ∧ True :=
    exists_yields (by decide +kernel)
  have hlists := Call.Lists.list ["ab", "c"] (some ((empty.withWrap false).withStrictOpen false))
  obtain ⟨_, hstrict⟩ := isMatch_literal_list hyields hlists (by decide) (by decide)
    (by decide) (by decide) "xc"
  exact ⟨shared, hyields, (hstrict (by decide) (by decide)).2.1 (by decide) (by decide)⟩

end Patternwork
