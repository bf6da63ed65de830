import Patternwork.Proofs.Backtrack.Reading.Listed
import Patternwork.Proofs.Lists.Literal
import Patternwork.Proofs.Regular.Listed

namespace Patternwork

open Settings

/-- An item that both notations read whole under some modes, wherever it stands in a list. -/
structure Item.SelfContained (wrap : Bool) (modes : Modes) (item : Item) : Prop where
  regular : Regular.reader.SelfContained modes (branch wrap item.source.toList)
  backtracking : Backtrack.reader.SelfContained modes (branch wrap item.source.toList)

theorem Item.selfContained_of_literal (wrap : Bool) {modes : Modes} {item : Item}
    (hplain : modes.verbose = false) (hliteral : Literal item.source.toList) :
    item.SelfContained wrap modes where
  regular := Regular.selfContained_of_literal wrap hplain hliteral
  backtracking := Backtrack.selfContained_of_literal wrap hplain hliteral

/-- The texts of self-contained items are self-contained as alternatives. -/
theorem Item.SelfContained.join {wrap : Bool} {modes : Modes} {items : List Item}
    (hitems : items ≠ []) (hself : ∀ item ∈ items, item.SelfContained wrap modes) :
    Regular.reader.SelfContained modes (Item.join wrap items).toList ∧
      Backtrack.reader.SelfContained modes (Item.join wrap items).toList := by
  have htexts : (items.map fun item => item.source.toList) ≠ [] := by simpa using hitems
  rw [toList_join]
  constructor
  · refine Reader.SelfContained.branches htexts ?_
    simpa using fun item hitem => (hself item hitem).regular
  · refine Reader.SelfContained.branches htexts ?_
    simpa using fun item hitem => (hself item hitem).backtracking

namespace Pattern

variable {source letters : String} {pattern longer : Pattern} {start stop wrap : Bool}
  {body : List Char} {w : String}

/-- A self-contained text matches with `.^` as another alternative what it matches without it. -/
theorem isMatch_or_dotCaret {longerSource : String}
    (hcompile : compile source letters = .ok pattern)
    (hlonger : compile longerSource letters = .ok longer)
    (hsource : source.toList = Item.anchored start stop body)
    (hlongerSource : longerSource.toList =
      Item.anchored start stop (body ++ '|' :: Item.branch wrap ['.', '^']))
    (hregular : Regular.reader.SelfContained pattern.flags.modes body)
    (hbacktracking : Backtrack.reader.SelfContained pattern.flags.modes body)
    (hone : ¬ (pattern.flags.multiLine = true ∧ pattern.flags.dotAll = true))
    (hkind : longer.isBacktracking = pattern.isBacktracking)
    (hends : pattern.outcome w ≠ .aborted) (hendsLonger : longer.outcome w ≠ .aborted) :
    longer.isMatch w = pattern.isMatch w := by
  have hflags : longer.flags = pattern.flags := by
    have hread := (of_compile_eq_ok hlonger).2.1
    rw [(of_compile_eq_ok hcompile).2.1] at hread
    exact (Option.some.inj hread).symm
  have hread := matcher_cases hcompile
  have hreadLonger := matcher_cases hlonger
  rw [hsource] at hread
  rw [hflags, hlongerSource] at hreadLonger
  rw [isMatch, isMatch, outcome, outcome]
  rw [outcome] at hends hendsLonger
  rw [isBacktracking, isBacktracking] at hkind
  rcases hread with ⟨a, hparse, hmatcher⟩ | ⟨plan, hplan, hmatcher⟩ <;>
    rcases hreadLonger with ⟨b, hparseLonger, hmatcherLonger⟩ | ⟨other, hother, hmatcherLonger⟩ <;>
    rw [hmatcher, hmatcherLonger] at hkind <;> rw [hmatcher, hmatcherLonger]
  · rw [Matcher.outcome, Matcher.outcome,
      Regular.isMatch_or_dotCaret hone hregular hparse hparseLonger]
  · cases hkind
  · cases hkind
  · rw [hmatcher] at hends
    rw [hmatcherLonger] at hendsLonger
    have hsame := Backtrack.outcome_or_dotCaret_iff hone hbacktracking hplan hother hends
      hendsLonger
    exact Bool.eq_iff_iff.mpr (by simpa [Matcher.outcome] using hsame)

end Pattern

/-- A list of self-contained items matches the same with the pattern that matches nothing as its
    last item, unless flags are in force by which a dot takes line feeds and lines start after
    them. Both lists are to be matched by the same notation. -/
theorem isMatch_append_matchNothing {items : List Item} {given : Option Settings}
    {shared longer : Shared} {w : String}
    (hyields : Call.Yields ⟨.compile, .list items, given⟩ shared)
    (hlonger : Call.Yields ⟨.compile, .list (items ++ [.compiled .matchNothing]), given⟩ longer)
    (hitems : items ≠ [])
    (hself : ∀ item ∈ items, item.SelfContained (wraps given) shared.pattern.flags.modes)
    (hplain : (given.getD empty).asksNegation = false)
    (hone : ¬ (shared.pattern.flags.multiLine = true ∧ shared.pattern.flags.dotAll = true))
    (hkind : longer.pattern.isBacktracking = shared.pattern.isBacktracking)
    (hends : shared.pattern.outcome w ≠ .aborted)
    (hendsLonger : longer.pattern.outcome w ≠ .aborted) :
    longer.pattern.isMatch w = shared.pattern.isMatch w := by
  have hcompile := compileText_eq_ok_some_iff.mp (hyields.makes rfl).compiles
  have hcompileLonger := compileText_eq_ok_some_iff.mp (hlonger.makes rfl).compiles
  obtain ⟨hregular, hbacktracking⟩ := Item.SelfContained.join hitems hself
  have hassembled := Effective.toList_assembled ((negated_resolve given).trans hplain)
  have htext : (Item.join (wraps given) (items ++ [.compiled .matchNothing])).toList =
      (Item.join (wraps given) items).toList ++ '|' :: Item.branch (wraps given) ['.', '^'] := by
    rw [Item.toList_join, Item.toList_join, List.map_append]
    exact Item.branches_concat _ _ (by simpa using hitems)
  have hsourceLonger := hassembled (Item.join (wraps given) (items ++ [.compiled .matchNothing]))
  rw [htext] at hsourceLonger
  have hsame := Pattern.isMatch_or_dotCaret hcompile hcompileLonger (hassembled _) hsourceLonger
    hregular hbacktracking hone hkind hends hendsLonger
  exact hsame

/-- A list under a flag by which lines start after line feeds, and a text of which one does. -/
theorem isMatch_append_matchNothing_multiLine :
    let given := some (ofList [("flags", .text "m")])
    ∃ shared longer,
      Call.Yields ⟨.compile, .list [.text "x"], given⟩ shared ∧
      Call.Yields ⟨.compile, .list [.text "x", .compiled .matchNothing], given⟩ longer ∧
      longer.pattern.isMatch "\n" = shared.pattern.isMatch "\n" := by
  intro given
  obtain ⟨shared, hyields, hflags, hregular, hends⟩ :
      ∃ shared, Call.Yields ⟨.compile, .list [.text "x"], given⟩ shared ∧
        shared.pattern.flags = { multiLine := true } ∧ shared.pattern.isBacktracking = false ∧
        shared.pattern.outcome "\n" ≠ .aborted := exists_yields (by decide +kernel)
  obtain ⟨longer, hlonger, hregularLonger, hendsLonger⟩ :
      ∃ longer, Call.Yields ⟨.compile, .list [.text "x", .compiled .matchNothing], given⟩ longer ∧
        longer.pattern.isBacktracking = false ∧ longer.pattern.outcome "\n" ≠ .aborted :=
    exists_yields (by decide +kernel)
  refine ⟨shared, longer, hyields, hlonger, ?_⟩
  refine isMatch_append_matchNothing hyields hlonger (by decide) ?_ (by decide) (by simp [hflags])
    (hregularLonger.trans hregular.symm) hends hendsLonger
  intro item hitem
  obtain rfl := List.mem_singleton.mp hitem
  exact Item.selfContained_of_literal _ (by rw [hflags]; rfl) (by decide)

/-- Where a dot takes line feeds and lines start after them, the list with the pattern that matches
    nothing matches a line feed, and the list without it does not. -/
theorem isMatch_append_matchNothing_lines :
    let given := some (ofList [("flags", .text "ms")])
    ∃ shared longer,
      Call.Yields ⟨.compile, .list [.text "x"], given⟩ shared ∧
      Call.Yields ⟨.compile, .list [.text "x", .compiled .matchNothing], given⟩ longer ∧
      (given.getD empty).asksNegation = false ∧ wraps given = true ∧
      (Item.text "x").SelfContained (wraps given) shared.pattern.flags.modes ∧
      shared.pattern.outcome "\n" = .unmatched ∧ longer.pattern.outcome "\n" = .matched := by
  intro given
  obtain ⟨shared, hyields, hflags, hunmatched⟩ :
      ∃ shared, Call.Yields ⟨.compile, .list [.text "x"], given⟩ shared ∧
        shared.pattern.flags = { multiLine := true, dotAll := true } ∧
        shared.pattern.outcome "\n" = .unmatched := exists_yields (by decide +kernel)
  obtain ⟨longer, hlonger, hmatched⟩ :
      ∃ longer, Call.Yields ⟨.compile, .list [.text "x", .compiled .matchNothing], given⟩ longer ∧
        longer.pattern.outcome "\n" = .matched := exists_yields (by decide +kernel)
  have hself : (Item.text "x").SelfContained (wraps given) shared.pattern.flags.modes :=
    Item.selfContained_of_literal _ (by rw [hflags]; rfl) (by decide)
  exact ⟨shared, longer, hyields, hlonger, by decide, by decide, hself, hunmatched, hmatched⟩

end Patternwork
