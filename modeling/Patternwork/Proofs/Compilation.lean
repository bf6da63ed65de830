import Patternwork.Proofs.Settings.Influence

namespace Patternwork

theorem Pattern.of_ofFlags_eq_ok {source : String} {flags : Flags} {pattern : Pattern}
    (hcompile : ofFlags source flags = .ok pattern) :
    pattern.source = source ∧ pattern.flags = flags ∧ pattern.metadata = none := by
  unfold ofFlags at hcompile
  split at hcompile
  · obtain rfl := Except.ok.inj hcompile
    exact ⟨rfl, rfl, rfl⟩
  · cases hcompile

theorem Pattern.of_compile_eq_ok {source letters : String} {pattern : Pattern}
    (hcompile : compile source letters = .ok pattern) :
    pattern.source = source ∧ Flags.parse? letters = some pattern.flags ∧
      pattern.metadata = none := by
  unfold compile at hcompile
  split at hcompile
  next flags hparse =>
    obtain ⟨hsource, rfl, hmetadata⟩ := of_ofFlags_eq_ok hcompile
    exact ⟨hsource, hparse, hmetadata⟩
  next => cases hcompile

/-- Flags that are refused are the cause, whatever the source. -/
theorem Pattern.compile_of_parse?_eq_none {letters : String} (hparse : Flags.parse? letters = none)
    (source : String) : compile source letters = .error (.flags letters) := by
  rw [compile, hparse]

/-- A compiled pattern is matched as its source is read behind its flags. -/
theorem Pattern.ofText?_of_compile_eq_ok {source letters : String} {pattern : Pattern}
    (hcompile : compile source letters = .ok pattern) :
    Matcher.ofText? (pattern.flags.inlineGroup ++ source) = some pattern.matcher := by
  unfold compile ofFlags at hcompile
  split at hcompile
  · split at hcompile
    next hmatcher =>
      obtain rfl := Except.ok.inj hcompile
      exact hmatcher
    next => cases hcompile
  · cases hcompile

/-- A compiled pattern is matched by the notation by which its source is read behind its flags. -/
theorem Pattern.matcher_cases {source letters : String} {pattern : Pattern}
    (hcompile : compile source letters = .ok pattern) :
    (∃ a, Regular.parse? (pattern.flags.inlineGroup.toList ++ source.toList) = some a ∧
        pattern.matcher = .regular a) ∨
      ∃ plan, Backtrack.Plan.parse? (pattern.flags.inlineGroup.toList ++ source.toList) =
          some plan ∧ pattern.matcher = .backtracking plan := by
  have hmatcher := ofText?_of_compile_eq_ok hcompile
  rw [Matcher.ofText?, String.toList_append] at hmatcher
  split at hmatcher
  next a hparse => exact .inl ⟨a, hparse, (Option.some.inj hmatcher).symm⟩
  next =>
    obtain ⟨plan, hplan, hmatcher⟩ := Option.map_eq_some_iff.mp hmatcher
    exact .inr ⟨plan, hplan, hmatcher.symm⟩

/-- A pattern that is matched by backtracking is planned as its source is read behind its
    flags. -/
theorem Pattern.matcher_eq_backtracking {source letters : String} {pattern : Pattern}
    {plan : Backtrack.Plan} (hcompile : compile source letters = .ok pattern)
    (hbacktracking : pattern.isBacktracking = true)
    (hplan : Backtrack.Plan.parse? (pattern.flags.inlineGroup ++ source).toList = some plan) :
    pattern.matcher = .backtracking plan := by
  have hmatcher := ofText?_of_compile_eq_ok hcompile
  unfold Matcher.ofText? at hmatcher
  split at hmatcher
  · rw [isBacktracking, ← Option.some.inj hmatcher] at hbacktracking
    cases hbacktracking
  · rw [hplan] at hmatcher
    exact (Option.some.inj hmatcher).symm

/-- Where both notations agree on a text, so do its pattern and its plan. -/
theorem Pattern.outcome_eq_of_parse? {source letters : String} {pattern : Pattern}
    {plan : Backtrack.Plan} {w : String} (hcompile : compile source letters = .ok pattern)
    (hplan : Backtrack.Plan.parse? (pattern.flags.inlineGroup ++ source).toList = some plan)
    (hagree : pattern.isBacktracking = false →
      pattern.outcome w = plan.outcome w.toList.toArray) :
    pattern.outcome w = plan.outcome w.toList.toArray := by
  cases hbacktracking : pattern.isBacktracking with
  | false => exact hagree hbacktracking
  | true =>
    rw [outcome, matcher_eq_backtracking hcompile hbacktracking hplan]
    rfl

/-- A text compiles to a pattern only where its assembled text does. -/
theorem compileText_eq_ok_some_iff {text : String} {given : Option Settings}
    {pattern : Pattern} :
    compileText text given = .ok (some pattern) ↔
      Pattern.compile ((Settings.resolve given).assembled text)
        (Settings.resolve given).flags = .ok pattern := by
  unfold compileText
  cases hcompile : Pattern.compile ((Settings.resolve given).assembled text)
      (Settings.resolve given).flags with
  | ok compiled => simp [hcompile]
  | error cause =>
    cases hstrict : (Settings.resolve given).strictErrors <;> simp [hcompile, hstrict]

/-- A text compiles to no pattern where the failure of its assembled text is suppressed. -/
theorem compileText_eq_ok_none_iff {text : String} {given : Option Settings} :
    compileText text given = .ok none ↔
      (∃ cause, Pattern.compile ((Settings.resolve given).assembled text)
        (Settings.resolve given).flags = .error cause) ∧
      (Settings.resolve given).strictErrors = false := by
  unfold compileText
  cases hcompile : Pattern.compile ((Settings.resolve given).assembled text)
      (Settings.resolve given).flags with
  | ok compiled => simp [hcompile]
  | error cause =>
    cases hstrict : (Settings.resolve given).strictErrors <;> simp [hcompile, hstrict]

/-- A rejection of the assembled text is reported with all that led to it, or suppressed. -/
theorem compileText_of_rejected {text : String} {given : Option Settings} {cause : Rejection}
    (hcompile : Pattern.compile ((Settings.resolve given).assembled text)
      (Settings.resolve given).flags = .error cause) :
    compileText text given =
      if (Settings.resolve given).strictErrors then
        .error (.failure
          { key := Key.derive text given
            pattern := (Settings.resolve given).assembled text
            flags := (Settings.resolve given).flags
            given
            effective := (Settings.resolve given).settings
            cause })
      else .ok none := by
  dsimp only [compileText]
  rw [hcompile]

/-- A compiled text carries the assembled text, the flags asked for, and no note. -/
theorem of_compileText_eq_ok {text : String} {given : Option Settings} {pattern : Pattern}
    (hcompile : compileText text given = .ok (some pattern)) :
    pattern.source = (Settings.resolve given).assembled text ∧
      Flags.parse? (Settings.resolve given).flags = some pattern.flags ∧
      pattern.metadata = none :=
  Pattern.of_compile_eq_ok (compileText_eq_ok_some_iff.mp hcompile)

/-- Options that ask for the same are compiled to the same pattern, or to none. -/
theorem Settings.Agree.compileText_iff {a b : Option Settings}
    (hagree : (a.getD empty).Agree (b.getD empty)) (text : String) (compiled : Option Pattern) :
    compileText text a = .ok compiled ↔ compileText text b = .ok compiled := by
  cases compiled with
  | none =>
    rw [compileText_eq_ok_none_iff, compileText_eq_ok_none_iff, hagree.assembled_eq,
      hagree.flags_eq, hagree.strictErrors_eq]
  | some pattern =>
    rw [compileText_eq_ok_some_iff, compileText_eq_ok_some_iff, hagree.assembled_eq,
      hagree.flags_eq]

/-- Alike options are compiled to the same pattern, or to none. -/
theorem Settings.AlikeGiven.compileText_iff {a b : Option Settings} (halike : AlikeGiven a b)
    (text : String) (compiled : Option Pattern) :
    compileText text a = .ok compiled ↔ compileText text b = .ok compiled :=
  Agree.compileText_iff halike.agree text compiled

end Patternwork
