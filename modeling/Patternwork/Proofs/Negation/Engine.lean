import Patternwork.Proofs.Negation.Compiled
import Patternwork.Proofs.Store.Outcome

namespace Patternwork

open Settings

/-- A negation is never read by the first notation, so that it is matched by backtracking. -/
theorem isBacktracking_of_compileText {text : String} {given : Option Settings}
    {pattern : Pattern} (hcompile : compileText text given = .ok (some pattern))
    (hnegated : (resolve given).negated = true) : pattern.isBacktracking = true := by
  have hmatcher := Pattern.ofText?_of_compile_eq_ok (compileText_eq_ok_some_iff.mp hcompile)
  have hunreadable := (Regular.unreadable_assembled hnegated text).inlineGroup pattern.flags
  rw [Matcher.ofText?, String.toList_append, hunreadable.parse?_eq_none] at hmatcher
  obtain ⟨plan, _, hplan⟩ := Option.map_eq_some_iff.mp hmatcher
  rw [Pattern.isBacktracking, ← hplan]

namespace World

variable {world : World}

/-- In every world that operations lead to, whatever text is asked for and under whatever options
    that ask for negation, a pattern that is returned is matched by backtracking, unless it is the
    one for suppressed failures. -/
theorem negation_backtracks (hreach : Reaches {} world) (cache : Nat) {call : Call}
    {text : String} (htext : call.text? = some text)
    (hnegated : (resolve call.given).negated = true) {shared : Shared}
    (hresult : world.reply cache call = .ok shared)
    (howned : shared.identity ≠ Shared.matchNothing.identity) :
    shared.pattern.isBacktracking = true := by
  have hreturned := returned_of_reaches hreach cache htext
  rw [hresult] at hreturned
  generalize hcompile : compileText text call.given = compiled at hreturned
  cases hreturned with
  | pattern =>
    -- The note that a stored pattern has on top does not change how it is matched.
    have hplain := isBacktracking_of_compileText hcompile hnegated
    exact hplain
  | suppressed => exact absurd rfl howned

/-- A text that closes the group around it and opens another one, under a flag, with a quantifier
    of its own and one end left open, served from a cache. -/
theorem negation_backtracks_of_unbalanced :
    let call : Call := ⟨.make, .text "a)|(?x:b", some (ofList [("negate", .int 1),
      ("endChar", .text "+"), ("flags", .text "gi"), ("strictClose", .bool false)])⟩
    let world := (perform {} (.call 0 call)).2
    (world.caches 0).size = 1 ∧ ∃ shared, world.reply 0 call = .ok shared ∧
      shared.pattern.source = "^(?:(?:(?!^(?:a)|(?x:b)$).)+)" ∧
      shared.pattern.isBacktracking = true := by
  intro call world
  have hreach : Reaches {} world :=
    .single (.perform (.call 0 call) (by simp [call, Operation.patterns, Input.patterns]))
  have hserved : (world.reply 0 call).toOption.any (fun shared =>
      decide (shared.identity ≠ Shared.matchNothing.identity ∧
        shared.pattern.source = "^(?:(?:(?!^(?:a)|(?x:b)$).)+)")) = true := by
    decide +kernel
  cases hresult : world.reply 0 call with
  | error => simp [hresult, Except.toOption] at hserved
  | ok shared =>
    rw [hresult] at hserved
    obtain ⟨howned, hsource⟩ := of_decide_eq_true hserved
    refine ⟨by decide +kernel, shared, rfl, hsource, ?_⟩
    exact negation_backtracks hreach 0 rfl (by decide) hresult howned

end World

end Patternwork
