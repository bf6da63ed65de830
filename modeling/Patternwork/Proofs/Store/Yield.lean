import Patternwork.Proofs.Store.Outcome

namespace Patternwork

/-- In a world that operations lead to, a call for the text and options returns a pattern,
    which is not the one for suppressed failures. -/
structure Makes (text : String) (given : Option Settings) (shared : Shared) : Prop where
  returned : ∃ world cache, World.Reaches {} world ∧
    ((⟨.make, .text text, given⟩ : Call).answer (world.caches cache) world.supply).result =
      .ok shared
  owned : shared.identity ≠ Shared.matchNothing.identity

variable {text : String} {given : Option Settings} {shared : Shared}

/-- In a world that operations lead to, a call returns a pattern, which is not the one for
    suppressed failures. -/
structure Call.Yields (call : Call) (shared : Shared) : Prop where
  returned : ∃ world cache, World.Reaches {} world ∧
    (call.answer (world.caches cache) world.supply).result = .ok shared
  owned : shared.identity ≠ Shared.matchNothing.identity

/-- The first call of all yields a pattern, of which everything can be worked out. -/
theorem exists_yields {call : Call} {property : Shared → Prop} [DecidablePred property]
    (hfirst : (call.answer {} {}).result.toOption.any
      (fun shared => decide (shared.identity ≠ Shared.matchNothing.identity ∧
        property shared)) = true) :
    ∃ shared, call.Yields shared ∧ property shared := by
  cases hresult : (call.answer {} {}).result with
  | error =>
    rw [hresult] at hfirst
    cases hfirst
  | ok shared =>
    rw [hresult] at hfirst
    obtain ⟨howned, hproperty⟩ := of_decide_eq_true hfirst
    exact ⟨shared, ⟨⟨{}, 0, .refl, hresult⟩, howned⟩, hproperty⟩

/-- A call that asks for a text gets what that text alone gets. -/
theorem Call.Yields.makes {call : Call} (hyields : call.Yields shared)
    (htext : call.text? = some text) : Makes text call.given shared := by
  obtain ⟨⟨world, cache, hreach, hresult⟩, howned⟩ := hyields
  refine ⟨⟨world, cache, hreach, ?_⟩, howned⟩
  rw [Call.answer_of_text htext] at hresult
  rw [Call.answer_of_text rfl]
  exact hresult

/-- The first call of all makes a pattern, of which everything can be worked out. -/
theorem exists_makes {property : Shared → Prop} [DecidablePred property]
    (hfirst : ((⟨.make, .text text, given⟩ : Call).answer {} {}).result.toOption.any
      (fun shared => decide (shared.identity ≠ Shared.matchNothing.identity ∧
        property shared)) = true) :
    ∃ shared, Makes text given shared ∧ property shared := by
  obtain ⟨shared, hyields, hproperty⟩ := exists_yields hfirst
  exact ⟨shared, hyields.makes rfl, hproperty⟩

/-- A pattern that was made was compiled from the text; at most a note was added to it. -/
theorem Makes.compiles (hmakes : Makes text given shared) :
    compileText text given = .ok (some { shared.pattern with metadata := none }) := by
  obtain ⟨⟨world, cache, hreach, hresult⟩, howned⟩ := hmakes
  have hreturned := World.returned_of_text hreach cache text given
  rw [World.reply, hresult] at hreturned
  generalize compileText text given = compiled at hreturned
  cases hreturned with
  | pattern => rfl
  | suppressed => exact absurd rfl howned

/-- Without flag letters no flag is set. -/
theorem Makes.flags_eq_empty (hmakes : Makes text given shared)
    (hflags : (Settings.resolve given).flags = "") : shared.pattern.flags = {} := by
  have hparse := (of_compileText_eq_ok hmakes.compiles).2.1
  rw [hflags] at hparse
  exact (Option.some.inj (show some {} = some shared.pattern.flags from hparse)).symm

/-- Without flags nothing stands before a pattern. -/
theorem inlineGroup_eq_empty (hmakes : Makes text given shared)
    (hflags : (Settings.resolve given).flags = "") : shared.pattern.flags.inlineGroup = "" := by
  rw [hmakes.flags_eq_empty hflags]
  rfl

end Patternwork
