import Patternwork.Proofs.Store.World

namespace Patternwork

/-- What is returned for a text, as it follows from what the text compiles to: the pattern with a
    note at most, the pattern that matches nothing where a failure is suppressed, or the failure. -/
inductive Returned : Except CompileError (Option Pattern) → Except CompileError Shared → Prop
  | pattern {shared : Shared} (howned : shared.identity ≠ Shared.matchNothing.identity) :
      Returned (.ok (some { shared.pattern with metadata := none })) (.ok shared)
  | suppressed : Returned (.ok none) (.ok .matchNothing)
  | failed {error : CompileError} : Returned (.error error) (.error error)

/-- A valid store returns what the text compiles to, whether it was stored before or not. -/
theorem Call.returned_of_valid {call : Call} {text : String} (htext : call.text? = some text)
    {store : Store} (hvalid : store.Valid) {supply : Supply} (hsupply : 0 < supply.next) :
    Returned (compileText text call.given) (call.answer store supply).result := by
  have hreturned {pattern : Pattern} {shared : Shared} {metadata : Option Metadata}
      (hcompile : compileText text call.given = .ok (some pattern))
      (hpattern : shared.pattern = { pattern with metadata })
      (howned : shared.identity ≠ Shared.matchNothing.identity) :
      Returned (compileText text call.given) (.ok shared) := by
    have hunnoted : { shared.pattern with metadata := none } = pattern := by
      rw [hpattern, ← (of_compileText_eq_ok hcompile).2.2]
    rw [hcompile, ← hunnoted]
    exact .pattern howned
  have howned : supply.next ≠ Shared.matchNothing.identity := Nat.ne_of_gt hsupply
  cases hallows : Settings.allowsStoring call.given with
  | true =>
    have hserved := served_of_text htext hallows store supply
    generalize call.answer store supply = answer at hserved
    cases hserved with
    | hit hfound =>
      obtain ⟨_, _, pattern, horigin⟩ := hvalid.origin _ (Store.mem_of_find? hfound)
      exact hreturned (horigin.compileText_eq rfl) horigin.annotated horigin.owned
    | failed _ hcompile =>
      rw [hcompile]
      exact .failed
    | suppressed _ hcompile =>
      rw [hcompile]
      exact .suppressed
    | stored _ hcompile hshared =>
      subst hshared
      exact hreturned hcompile rfl howned
  | false =>
    have hapart := apart_of_text htext hallows store supply
    generalize call.answer store supply = answer at hapart
    cases hapart with
    | failed hcompile =>
      rw [hcompile]
      exact .failed
    | suppressed hcompile =>
      rw [hcompile]
      exact .suppressed
    | made hcompile => exact hreturned hcompile rfl howned

namespace Returned

variable {text : String} {given : Option Settings} {result : Except CompileError Shared}

theorem of_compiles (hreturned : Returned (compileText text given) result) {pattern : Pattern}
    (hcompile : Pattern.compile ((Settings.resolve given).assembled text)
      (Settings.resolve given).flags = .ok pattern) :
    ∃ shared, result = .ok shared ∧ shared.identity ≠ Shared.matchNothing.identity ∧
      { shared.pattern with metadata := none } = pattern := by
  rw [compileText_eq_ok_some_iff.mpr hcompile] at hreturned
  cases hreturned with
  | pattern howned => exact ⟨_, rfl, howned, rfl⟩

theorem of_suppressed (hreturned : Returned (compileText text given) result) {cause : Rejection}
    (hcompile : Pattern.compile ((Settings.resolve given).assembled text)
      (Settings.resolve given).flags = .error cause)
    (hsuppress : (Settings.resolve given).strictErrors = false) : result = .ok .matchNothing := by
  rw [compileText_of_rejected hcompile, if_neg (ne_true_of_eq_false hsuppress)] at hreturned
  cases hreturned
  rfl

theorem of_failed (hreturned : Returned (compileText text given) result) {cause : Rejection}
    (hcompile : Pattern.compile ((Settings.resolve given).assembled text)
      (Settings.resolve given).flags = .error cause)
    (hstrict : (Settings.resolve given).strictErrors = true) :
    result = .error (.failure
      { key := Key.derive text given
        pattern := (Settings.resolve given).assembled text
        flags := (Settings.resolve given).flags
        given
        effective := (Settings.resolve given).settings
        cause }) := by
  rw [compileText_of_rejected hcompile, if_pos hstrict] at hreturned
  cases hreturned
  rfl

end Returned

/-- Patterns that cannot be told apart by matching: of the same text and flags, in the same
    notation, with the same outcome on every text. -/
structure Pattern.MatchesAlike (a b : Pattern) : Prop where
  source : a.source = b.source
  flags : a.flags = b.flags
  engine : a.isBacktracking = b.isBacktracking
  outcome : ∀ text, a.outcome text = b.outcome text

theorem Pattern.matchesAlike_of_unnoted {a b : Pattern}
    (hequal : { a with metadata := none } = { b with metadata := none }) : a.MatchesAlike b := by
  have hsource := congrArg Pattern.source hequal
  have hflags := congrArg Pattern.flags hequal
  have hengine := congrArg Pattern.isBacktracking hequal
  have houtcome (text : String) := congrArg (Pattern.outcome · text) hequal
  exact ⟨hsource, hflags, hengine, houtcome⟩

/-- Both calls return patterns that match alike, both have their failures suppressed, or both fail
    with the same text, flags and cause. -/
inductive SameOutcome : Except CompileError Shared → Except CompileError Shared → Prop
  | compiled {a b : Shared} (ha : a.identity ≠ Shared.matchNothing.identity)
      (hb : b.identity ≠ Shared.matchNothing.identity)
      (hmatches : a.pattern.MatchesAlike b.pattern) : SameOutcome (.ok a) (.ok b)
  | suppressed : SameOutcome (.ok .matchNothing) (.ok .matchNothing)
  | failed {a b : CompileFailure} (hpattern : a.pattern = b.pattern) (hflags : a.flags = b.flags)
      (hcause : a.cause = b.cause) : SameOutcome (.error (.failure a)) (.error (.failure b))

/-- The assembled text, its flags and the suppression of failures decide the outcome. -/
theorem Returned.sameOutcome {text : String} {given options : Option Settings}
    {result more : Except CompileError Shared} (hresult : Returned (compileText text given) result)
    (hmore : Returned (compileText text options) more)
    (hassembled : (Settings.resolve given).assembled text =
      (Settings.resolve options).assembled text)
    (hflags : (Settings.resolve given).flags = (Settings.resolve options).flags)
    (hstrict : (Settings.resolve given).strictErrors = (Settings.resolve options).strictErrors) :
    SameOutcome result more := by
  cases hcompile : Pattern.compile ((Settings.resolve given).assembled text)
      (Settings.resolve given).flags with
  | ok pattern =>
    have hagain := hcompile
    rw [hassembled, hflags] at hagain
    obtain ⟨a, rfl, ha, hpattern⟩ := hresult.of_compiles hcompile
    obtain ⟨b, rfl, hb, hsame⟩ := hmore.of_compiles hagain
    exact .compiled ha hb (Pattern.matchesAlike_of_unnoted (hpattern.trans hsame.symm))
  | error cause =>
    have hagain := hcompile
    rw [hassembled, hflags] at hagain
    cases hsuppress : (Settings.resolve given).strictErrors with
    | false =>
      rw [hresult.of_suppressed hcompile hsuppress,
        hmore.of_suppressed hagain (hstrict ▸ hsuppress)]
      exact .suppressed
    | true =>
      rw [hresult.of_failed hcompile hsuppress, hmore.of_failed hagain (hstrict ▸ hsuppress)]
      exact .failed hassembled hflags rfl

namespace World

/-- What a call on a cache gets. -/
def reply (world : World) (cache : Nat) (call : Call) : Except CompileError Shared :=
  (call.answer (world.caches cache) world.supply).result

variable {world later : World}

theorem returned_of_reaches (hreach : Reaches {} world) (cache : Nat) {call : Call} {text : String}
    (htext : call.text? = some text) :
    Returned (compileText text call.given) (world.reply cache call) := by
  have hvalid := valid_of_reaches hreach valid_start
  exact Call.returned_of_valid htext (hvalid.stores cache) hvalid.next_pos

theorem returned_of_text (hreach : Reaches {} world) (cache : Nat) (text : String)
    (given : Option Settings) :
    Returned (compileText text given) (world.reply cache ⟨.make, .text text, given⟩) := by
  have htext : (⟨.make, .text text, given⟩ : Call).text? = some text := rfl
  have hreturned := returned_of_reaches hreach cache htext
  exact hreturned

/-- Calls for the same text have the same outcome, in whatever worlds, if their options agree. -/
theorem sameOutcome_of_agree (hworld : Reaches {} world) (hlater : Reaches {} later)
    (cache other : Nat) {call more : Call} {text : String} (htext : call.text? = some text)
    (hmore : more.text? = some text)
    (hagree : (call.given.getD .empty).Agree (more.given.getD .empty)) :
    SameOutcome (world.reply cache call) (later.reply other more) :=
  (returned_of_reaches hworld cache htext).sameOutcome (returned_of_reaches hlater other hmore)
    (hagree.assembled_eq text) hagree.flags_eq hagree.strictErrors_eq

/-- In every world that operations lead to, a call for a text returns the pattern that the
    assembled text compiles to under its flags; if it does not compile, the call returns the
    pattern that matches nothing where `strictErrors` is exactly `false`, and else fails with all
    that led to the failure. No other world, and no options that differ in `cache` only, have
    another outcome. -/
theorem outcome_of_text (hreach : Reaches {} world) (cache : Nat) (text : String)
    (given : Option Settings) :
    let effective := Settings.resolve given
    let assembled := effective.opening ++ "(?:" ++
      (if effective.negated then negation text effective.settings else text) ++ ")" ++
      effective.closing
    let result := world.reply cache ⟨.make, .text text, given⟩
    (∀ pattern, Pattern.compile assembled effective.flags = .ok pattern →
      ∃ shared, result = .ok shared ∧ shared.identity ≠ Shared.matchNothing.identity ∧
        shared.pattern.source = assembled ∧
        Flags.parse? effective.flags = some shared.pattern.flags ∧
        shared.pattern.MatchesAlike pattern) ∧
    (∀ cause, Pattern.compile assembled effective.flags = .error cause →
      (Flags.parse? effective.flags = none → cause = .flags effective.flags) ∧
      ((given.getD .empty).get? Settings.Name.strictErrors = some (.bool false) →
        result = .ok .matchNothing) ∧
      ((given.getD .empty).get? Settings.Name.strictErrors ≠ some (.bool false) →
        result = .error (.failure
          { key := Key.derive text given
            pattern := assembled
            flags := effective.flags
            given
            effective := effective.settings
            cause }))) ∧
    ∀ later, Reaches {} later → ∀ (other : Nat) (options : Option Settings),
      (∀ name ≠ Settings.Name.cache,
        (options.getD .empty).get? name = (given.getD .empty).get? name) →
      SameOutcome result (later.reply other ⟨.make, .text text, options⟩) := by
  intro effective assembled result
  have hreturned : Returned (compileText text given) result :=
    returned_of_text hreach cache text given
  have hstrict : effective.strictErrors =
      !(given.getD .empty).isFalse Settings.Name.strictErrors :=
    Settings.strictErrors_resolve given
  refine ⟨?_, ?_, ?_⟩
  · intro pattern hcompile
    obtain ⟨shared, hresult, howned, hpattern⟩ := hreturned.of_compiles hcompile
    obtain ⟨hsource, hflags, _⟩ := Pattern.of_compile_eq_ok hcompile
    subst hpattern
    exact ⟨shared, hresult, howned, hsource, hflags, Pattern.matchesAlike_of_unnoted rfl⟩
  · intro cause hcompile
    refine ⟨?_, ?_, ?_⟩
    · intro hparse
      rw [Pattern.compile_of_parse?_eq_none hparse] at hcompile
      exact (Except.error.inj hcompile).symm
    · intro hfalse
      rw [Settings.isFalse_iff.mpr hfalse] at hstrict
      exact hreturned.of_suppressed hcompile hstrict
    · intro hfalse
      rw [eq_false_of_ne_true (mt Settings.isFalse_iff.mp hfalse)] at hstrict
      exact hreturned.of_failed hcompile hstrict
  · intro later hlater other options hoptions
    have hcounts : ∀ name ∈ Settings.switches ++ Settings.texts, name ≠ Settings.Name.cache := by
      decide
    have hagree : (given.getD .empty).Agree (options.getD .empty) :=
      Settings.agree_of_get?_eq fun name hname => (hoptions name (hcounts name hname)).symm
    exact sameOutcome_of_agree hreach hlater cache other rfl rfl hagree

/-- A text that does not compile, a `strictErrors` that is falsy but not `false`, and a cache that
    holds a pattern. -/
theorem outcome_of_text_unclosed :
    let world := (perform {} (.call 0 ⟨.make, .text "a", none⟩)).2
    let given := some (Settings.ofList [("strictErrors", .text ""), ("strict", .bool false)])
    (world.caches 0).size = 1 ∧
      ∃ cause, world.reply 0 ⟨.make, .text "(", given⟩ = .error (.failure
        { key := "1:(; 12:strictErrors=s0:; 6:strict=b5:false"
          pattern := "(?:()"
          flags := ""
          given
          effective := .ofList [("strictErrors", .text ""), ("strict", .bool false),
            ("strictOpen", .bool false), ("strictClose", .bool false)]
          cause }) := by
  intro world given
  have hreach : Reaches {} world :=
    .single (.perform (.call 0 _) (by simp [Operation.patterns, Input.patterns]))
  have hnone : (Pattern.compile "(?:()" "").toOption.isNone = true := by decide +kernel
  cases hcompile : Pattern.compile "(?:()" "" with
  | ok pattern =>
    rw [hcompile] at hnone
    cases hnone
  | error cause =>
    obtain ⟨_, _, hfailed⟩ := (outcome_of_text hreach 0 "(" given).2.1 cause hcompile
    exact ⟨by decide +kernel, cause, hfailed (by decide)⟩

end World

end Patternwork
