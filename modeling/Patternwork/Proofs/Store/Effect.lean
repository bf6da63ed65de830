import Patternwork.Proofs.Store.Origin

namespace Patternwork

/-- The answers that a call can get: an error, a pattern that exists already, a new pattern
    that is kept out of the store, or a new entry. -/
inductive Answer.Of (store : Store) (supply : Supply) (call : Call) : Answer → Prop
  | refused {error : CompileError} : Of store supply call ⟨.error error, store, supply⟩
  | served {shared : Shared}
      (hserved : shared = .matchNothing ∨ shared ∈ call.input.patterns ∨
        ∃ key, (key, shared) ∈ store.entries) :
      Of store supply call ⟨.ok shared, store, supply⟩
  | made {pattern : Pattern} (hplain : pattern.metadata = none) :
      Of store supply call ⟨.ok ⟨supply.next, pattern⟩, store, ⟨supply.next + 1⟩⟩
  | stored {key text : String} {shared : Shared} {given : Option Settings} {pattern : Pattern}
      (habsent : store.find? key = none) (horigin : Origin key shared text given pattern)
      (hnext : shared.identity = supply.next) :
      Of store supply call ⟨.ok shared, store.insert key shared, ⟨supply.next + 1⟩⟩

namespace Answer.Of

variable {store : Store} {supply : Supply} {call : Call} {answer : Answer} {text : String}

theorem of_served (hallows : Settings.allowsStoring call.given = true)
    (hsupply : 0 < supply.next)
    (hserved : Store.Served store supply text call.given answer) :
    Of store supply call answer := by
  cases hserved with
  | hit hfound => exact .served (.inr (.inr ⟨_, Store.mem_of_find? hfound⟩))
  | failed => exact .refused
  | suppressed => exact .served (.inl rfl)
  | stored habsent hcompile hshared =>
    subst hshared
    exact .stored habsent (Store.origin_of_stored hallows hcompile hsupply) rfl

theorem of_apart (hapart : Store.Apart store supply text call.given answer) :
    Of store supply call answer := by
  cases hapart with
  | failed => exact .refused
  | suppressed => exact .served (.inl rfl)
  | made hcompile =>
    obtain ⟨_, _, hplain⟩ := of_compileText_eq_ok hcompile
    exact .made hplain

/-- A call only adds to the store. -/
theorem entries_extended (hanswer : Of store supply call answer) :
    store.entries <+: answer.store.entries := by
  cases hanswer with
  | refused => exact List.prefix_refl _
  | served => exact List.prefix_refl _
  | made => exact List.prefix_refl _
  | stored => exact List.prefix_append _ _

/-- Identities are given away in order. -/
theorem next_le (hanswer : Of store supply call answer) :
    supply.next ≤ answer.supply.next := by
  cases hanswer with
  | refused => exact Nat.le_refl _
  | served => exact Nat.le_refl _
  | made => exact Nat.le_succ _
  | stored => exact Nat.le_succ _

theorem valid (hanswer : Of store supply call answer) (hvalid : store.Valid) :
    answer.store.Valid := by
  cases hanswer with
  | refused => exact hvalid
  | served => exact hvalid
  | made => exact hvalid
  | stored habsent horigin => exact hvalid.insert habsent horigin

end Answer.Of

namespace Call

theorem answer_of (call : Call) (store : Store) {supply : Supply}
    (hsupply : 0 < supply.next) :
    Answer.Of store supply call (call.answer store supply) := by
  cases htext : call.text? with
  | none =>
    rcases answer_of_no_text htext store supply with hanswer | ⟨shared, hinput, hanswer⟩
    · rw [hanswer]
      exact .refused
    · rw [hanswer]
      exact .served (.inr (.inl (by simp [hinput, Input.patterns])))
  | some text =>
    cases hallows : Settings.allowsStoring call.given with
    | true => exact .of_served hallows hsupply (served_of_text htext hallows store supply)
    | false => exact .of_apart (apart_of_text htext hallows store supply)

/-- A call that finds its key in the store gets what stands there. -/
theorem answer_of_found {call : Call} {key : String} (hkey : call.key? = some key)
    {store : Store} {shared : Shared} (hfound : store.find? key = some shared)
    (supply : Supply) : call.answer store supply = ⟨.ok shared, store, supply⟩ := by
  obtain ⟨hallows, text, htext, rfl⟩ := key?_eq_some_iff.mp hkey
  rw [answer_of_text htext, if_pos hallows]
  dsimp only [Store.makeStored]
  rw [hfound]

/-- A call that does not find its key gets what it would get from an empty store. -/
theorem result_of_absent {call : Call} {text : String} (htext : call.text? = some text)
    {store : Store} (habsent : ∀ key, call.key? = some key → store.find? key = none)
    (supply : Supply) :
    (call.answer store supply).result = (call.answer {} supply).result := by
  rw [answer_of_text htext, answer_of_text htext]
  split
  next hallows =>
    have hfind := habsent _ (key?_eq_some_iff.mpr ⟨hallows, text, htext, rfl⟩)
    have hempty : ({} : Store).find? (Key.derive text call.given) = none := rfl
    dsimp only [Store.makeStored]
    rw [hfind, hempty]
    cases compileText text call.given with
    | error error => rfl
    | ok compiled => cases compiled <;> rfl
  next =>
    unfold Store.makeUnstored
    cases compileText text call.given with
    | error error => rfl
    | ok compiled => cases compiled <;> rfl

end Call

end Patternwork
