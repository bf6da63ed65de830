import Patternwork.Proofs.Store.Origin

namespace Patternwork

theorem Settings.allowsStoring_iff (given : Option Settings) :
    allowsStoring given = true ↔ (given.getD empty).get? Name.cache ≠ some (.bool false) := by
  cases given with
  | none => exact iff_of_true rfl (by simp [get?, empty])
  | some record =>
    rw [Option.getD_some, ne_eq, ← isFalse_iff]
    simp [allowsStoring]

namespace Call

/-- A call that adds to a store. It asks for a text, its options do not switch storing off,
    nothing is stored under its key, and what is assembled of the text compiles. -/
structure Adds (call : Call) (store : Store) (text : String) (pattern : Pattern) : Prop where
  asks : call.text? = some text
  enabled : (call.given.getD .empty).get? Settings.Name.cache ≠ some (.bool false)
  absent : ∀ entry ∈ store.entries, entry.1 ≠ Key.derive text call.given
  compiles : Pattern.compile ((Settings.resolve call.given).assembled text)
    (Settings.resolve call.given).flags = .ok pattern

variable {call : Call} {store : Store} {text : String} {pattern : Pattern}

/-- A call that adds returns a new object, which it stores. -/
theorem Adds.answer_eq (hadds : call.Adds store text pattern) (supply : Supply) :
    let key := Key.derive text call.given
    let shared : Shared :=
      ⟨supply.next, Store.annotate pattern key (Settings.resolve call.given).settings⟩
    call.answer store supply = ⟨.ok shared, store.insert key shared, ⟨supply.next + 1⟩⟩ := by
  have hallows := (Settings.allowsStoring_iff call.given).mpr hadds.enabled
  have hsome : compileText text call.given = .ok (some pattern) :=
    compileText_eq_ok_some_iff.mpr hadds.compiles
  have habsent := Store.find?_eq_none_iff.mpr hadds.absent
  rw [answer_of_text hadds.asks, if_pos hallows]
  dsimp only [Store.makeStored]
  rw [habsent, hsome]
  rfl

/-- Every other call leaves the store as it is. -/
theorem store_of_not_adds (hnone : ¬ ∃ text pattern, call.Adds store text pattern)
    (supply : Supply) : (call.answer store supply).store = store := by
  cases hkey : call.key? with
  | none => exact store_of_no_key hkey store supply
  | some key =>
    obtain ⟨hallows, text, htext, _⟩ := key?_eq_some_iff.mp hkey
    have hserved := served_of_text htext hallows store supply
    generalize call.answer store supply = answer at hserved
    cases hserved with
    | hit => rfl
    | failed => rfl
    | suppressed => rfl
    | @stored pattern _ habsent hcompile =>
      have hadds : call.Adds store text pattern :=
        ⟨htext, (Settings.allowsStoring_iff call.given).mp hallows,
          Store.find?_eq_none_iff.mp habsent, compileText_eq_ok_some_iff.mp hcompile⟩
      exact absurd ⟨text, pattern, hadds⟩ hnone

/-- A call adds the object that it returns under its key, and nothing else, if it asks for a text
    under a new key, storing is not switched off and the text compiles. Otherwise the store stays
    as it was, entry for entry: without a text, with a compiled pattern, which is returned as it
    is, with storing switched off, and wherever the text does not compile. -/
theorem store_grows_by_one (call : Call) (store : Store) (supply : Supply) :
    let answer := call.answer store supply
    (∀ text pattern, call.Adds store text pattern →
      ∃ shared, answer.result = .ok shared ∧
        answer.store.entries = store.entries ++ [(Key.derive text call.given, shared)] ∧
        shared.pattern = Store.annotate pattern (Key.derive text call.given)
          (Settings.resolve call.given).settings) ∧
    ((¬ ∃ text pattern, call.Adds store text pattern) → answer.store = store) ∧
    (call.input = .missing → answer = ⟨.error .invalidInput, store, supply⟩) ∧
    (∀ items, call.method = .make → call.input = .list items →
      answer = ⟨.error .invalidInput, store, supply⟩) ∧
    (∀ shared, call.input = .compiled shared → answer = ⟨.ok shared, store, supply⟩) ∧
    ((call.given.getD .empty).get? Settings.Name.cache = some (.bool false) →
      answer.store = store) ∧
    (∀ error, answer.result = .error error → answer.store = store) ∧
    (answer.result = .ok .matchNothing → answer.store = store) ∧
    ∀ text cause, call.text? = some text →
      Pattern.compile ((Settings.resolve call.given).assembled text)
        (Settings.resolve call.given).flags = .error cause → answer.store = store := by
  intro answer
  have hkept (hnone : ∀ text pattern, ¬ call.Adds store text pattern) : answer.store = store :=
    store_of_not_adds (fun ⟨text, pattern, hadds⟩ => hnone text pattern hadds) supply
  refine ⟨?_, fun hnone => store_of_not_adds hnone supply, ?_, ?_, ?_, ?_, ?_, ?_, ?_⟩
  · intro text pattern hadds
    have hanswer := hadds.answer_eq supply
    exact ⟨_, congrArg Answer.result hanswer, congrArg (·.store.entries) hanswer, rfl⟩
  · intro hmissing
    obtain ⟨method, input, given⟩ := call
    obtain rfl : input = .missing := hmissing
    cases method <;> rfl
  · intro items hmake hlist
    obtain ⟨method, input, given⟩ := call
    obtain rfl : method = .make := hmake
    obtain rfl : input = .list items := hlist
    rfl
  · intro shared hcompiled
    obtain ⟨method, input, given⟩ := call
    obtain rfl : input = .compiled shared := hcompiled
    cases method <;> rfl
  · intro hdisabled
    exact hkept fun _ _ hadds => hadds.enabled hdisabled
  · intro error herror
    refine hkept fun _ _ hadds => ?_
    rw [show answer = _ from hadds.answer_eq supply] at herror
    cases herror
  · intro hsentinel
    -- A pattern that is added carries a note.
    refine hkept fun _ _ hadds => ?_
    rw [show answer = _ from hadds.answer_eq supply] at hsentinel
    have hnote := congrArg (·.pattern.metadata) (Except.ok.inj hsentinel)
    cases hnote
  · intro text cause htext hcause
    refine hkept fun other _ hadds => ?_
    obtain rfl := Option.some.inj (htext.symm.trans hadds.asks)
    have hcompiles := hcause.symm.trans hadds.compiles
    cases hcompiles

/-- A list whose options only seem to switch storing off, and a store that holds a pattern. -/
theorem store_grows_by_one_of_list :
    let call : Call := ⟨.compile, .list [.text "a", .compiled .matchNothing],
      some (.ofList [("cache", .text "false"), ("wrap", .bool false)])⟩
    let store := ((⟨.make, .text "a", none⟩ : Call).answer {} {}).store
    store.size = 1 ∧ ∃ pattern shared, call.Adds store "a|.^" pattern ∧
      (call.answer store ⟨2⟩).result = .ok shared ∧
      (call.answer store ⟨2⟩).store.entries =
        store.entries ++ [("4:a|.^; 5:cache=s5:false; 4:wrap=b5:false", shared)] := by
  intro call store
  obtain ⟨pattern, hcompile⟩ : ∃ pattern, Pattern.compile "^(?:a|.^)$" "" = .ok pattern := by
    have hsome : (Pattern.compile "^(?:a|.^)$" "").toOption.isSome = true := by decide +kernel
    cases hcompile : Pattern.compile "^(?:a|.^)$" "" with
    | ok pattern => exact ⟨pattern, rfl⟩
    | error =>
      rw [hcompile] at hsome
      cases hsome
  have hadds : call.Adds store "a|.^" pattern :=
    ⟨rfl, by decide, by decide +kernel, hcompile⟩
  obtain ⟨shared, hresult, hentries, _⟩ := (store_grows_by_one call store ⟨2⟩).1 _ _ hadds
  exact ⟨by decide +kernel, pattern, shared, hadds, hresult, hentries⟩

end Call

end Patternwork
