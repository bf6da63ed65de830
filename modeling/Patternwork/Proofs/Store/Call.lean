import Patternwork.Store

namespace Patternwork

/-- The two ways to ask a store for a pattern. -/
inductive Method where
  | compile
  | make

structure Call where
  method : Method
  input : Input
  given : Option Settings := none

def Input.patterns : Input → List Shared
  | .compiled shared => [shared]
  | .list items => items.filterMap fun
    | .text _ => none
    | .compiled shared => some shared
  | .missing | .text _ => []

namespace Call

def answer (call : Call) (store : Store) (supply : Supply) : Answer :=
  match call.method with
  | .compile => store.compile supply call.input call.given
  | .make => store.make supply call.input call.given

/-- The text that the call asks for: its own, or that of its list. -/
def text? (call : Call) : Option String :=
  match call.method, call.input with
  | _, .text text => some text
  | .compile, .list items => some (Item.join (Settings.wraps call.given) items)
  | _, _ => none

/-- The key that the call looks up, if it looks into the store. -/
def key? (call : Call) : Option String :=
  if Settings.allowsStoring call.given then
    call.text?.map fun text => Key.derive text call.given
  else none

/-- A call that asks for a text goes to the store only if its options allow it. -/
theorem answer_of_text {call : Call} {text : String} (htext : call.text? = some text)
    (store : Store) (supply : Supply) :
    call.answer store supply =
      if Settings.allowsStoring call.given then store.makeStored supply text call.given
      else store.makeUnstored supply text call.given := by
  obtain ⟨method, input, given⟩ := call
  cases method <;> cases input <;> cases htext <;> rfl

/-- A call that asks for no text passes a pattern on or is refused. -/
theorem answer_of_no_text {call : Call} (htext : call.text? = none) (store : Store)
    (supply : Supply) :
    call.answer store supply = ⟨.error .invalidInput, store, supply⟩ ∨
      ∃ shared, call.input = .compiled shared ∧
        call.answer store supply = ⟨.ok shared, store, supply⟩ := by
  obtain ⟨method, input, given⟩ := call
  cases input with
  | missing => cases method <;> exact .inl rfl
  | text text => cases method <;> cases htext
  | compiled shared => cases method <;> exact .inr ⟨shared, rfl, rfl⟩
  | list items =>
    cases method with
    | compile => cases htext
    | make => exact .inl rfl

theorem key?_eq_some_iff {call : Call} {key : String} :
    call.key? = some key ↔
      Settings.allowsStoring call.given = true ∧
        ∃ text, call.text? = some text ∧ Key.derive text call.given = key := by
  unfold key?
  split
  next hallows => simp [hallows, Option.map_eq_some_iff]
  next hrefuses => simp [hrefuses]

end Call

namespace Store

/-- A text is served the stored pattern, or else whatever it compiles to; of that only a
    pattern is stored. -/
inductive Served (store : Store) (supply : Supply) (text : String) (given : Option Settings) :
    Answer → Prop
  | hit {shared : Shared} (hfound : store.find? (Key.derive text given) = some shared) :
      Served store supply text given ⟨.ok shared, store, supply⟩
  | failed {error : CompileError} (habsent : store.find? (Key.derive text given) = none)
      (hcompile : compileText text given = .error error) :
      Served store supply text given ⟨.error error, store, supply⟩
  | suppressed (habsent : store.find? (Key.derive text given) = none)
      (hcompile : compileText text given = .ok none) :
      Served store supply text given ⟨.ok .matchNothing, store, supply⟩
  | stored {pattern : Pattern} {shared : Shared}
      (habsent : store.find? (Key.derive text given) = none)
      (hcompile : compileText text given = .ok (some pattern))
      (hshared : shared = ⟨supply.next, annotate pattern (Key.derive text given)
        (Settings.resolve given).settings⟩) :
      Served store supply text given
        ⟨.ok shared, store.insert (Key.derive text given) shared, ⟨supply.next + 1⟩⟩

theorem served_makeStored (store : Store) (supply : Supply) (text : String)
    (given : Option Settings) :
    Served store supply text given (store.makeStored supply text given) := by
  dsimp only [makeStored, Supply.share]
  cases hfind : store.find? (Key.derive text given) with
  | some shared => exact .hit hfind
  | none =>
    cases hcompile : compileText text given with
    | error error => exact .failed hfind hcompile
    | ok compiled =>
      cases compiled with
      | none => exact .suppressed hfind hcompile
      | some pattern => exact .stored hfind hcompile rfl

/-- Compiling a text apart from any store. -/
inductive Apart (store : Store) (supply : Supply) (text : String) (given : Option Settings) :
    Answer → Prop
  | failed {error : CompileError} (hcompile : compileText text given = .error error) :
      Apart store supply text given ⟨.error error, store, supply⟩
  | suppressed (hcompile : compileText text given = .ok none) :
      Apart store supply text given ⟨.ok .matchNothing, store, supply⟩
  | made {pattern : Pattern} (hcompile : compileText text given = .ok (some pattern)) :
      Apart store supply text given ⟨.ok ⟨supply.next, pattern⟩, store, ⟨supply.next + 1⟩⟩

theorem apart_makeUnstored (store : Store) (supply : Supply) (text : String)
    (given : Option Settings) :
    Apart store supply text given (store.makeUnstored supply text given) := by
  unfold makeUnstored
  cases hcompile : compileText text given with
  | error error => exact .failed hcompile
  | ok compiled =>
    cases compiled with
    | none => exact .suppressed hcompile
    | some pattern => exact .made hcompile

end Store

namespace Call

variable {call : Call} {text : String}

theorem served_of_text (htext : call.text? = some text)
    (hallows : Settings.allowsStoring call.given = true) (store : Store) (supply : Supply) :
    Store.Served store supply text call.given (call.answer store supply) := by
  rw [answer_of_text htext, if_pos hallows]
  exact store.served_makeStored supply text call.given

theorem apart_of_text (htext : call.text? = some text)
    (hrefuses : Settings.allowsStoring call.given = false) (store : Store) (supply : Supply) :
    Store.Apart store supply text call.given (call.answer store supply) := by
  rw [answer_of_text htext, if_neg (ne_true_of_eq_false hrefuses)]
  exact store.apart_makeUnstored supply text call.given

/-- A call without a key leaves the store as it is. -/
theorem store_of_no_key (hkey : call.key? = none) (store : Store) (supply : Supply) :
    (call.answer store supply).store = store := by
  cases htext : call.text? with
  | none =>
    rcases answer_of_no_text htext store supply with hanswer | ⟨shared, _, hanswer⟩ <;>
      rw [hanswer]
  | some text =>
    have hrefuses : Settings.allowsStoring call.given = false := by
      cases hallows : Settings.allowsStoring call.given with
      | true => simp [key?, htext, hallows] at hkey
      | false => rfl
    have hapart := apart_of_text htext hrefuses store supply
    generalize call.answer store supply = answer at hapart
    cases hapart <;> rfl

end Call

end Patternwork
