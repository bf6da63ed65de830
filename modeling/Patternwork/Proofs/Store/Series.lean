import Mathlib.Data.Finset.Card
import Patternwork.Proofs.Store.Transparency

namespace Patternwork

/-- What each call of a series got, and what the series leaves behind. -/
structure Series where
  results : List (Call × Except CompileError Shared)
  store : Store
  supply : Supply

/-- The keys under which a store holds a pattern. -/
def Store.keys (store : Store) : Finset String := (store.entries.map Prod.fst).toFinset

/-- Makes a series of calls, one after another. -/
def Store.serve (store : Store) (supply : Supply) : List Call → Series
  | [] => ⟨[], store, supply⟩
  | call :: calls =>
    let answer := call.answer store supply
    let rest := answer.store.serve answer.supply calls
    { rest with results := (call, answer.result) :: rest.results }

/-- A call that goes to the store with a text that compiles to a pattern, under its key. -/
def Call.Stores (call : Call) (key : String) : Prop :=
  call.key? = some key ∧
    ∃ text pattern, call.text? = some text ∧ compileText text call.given = .ok (some pattern)

namespace Store

variable {store other : Store} {key : String}

theorem keys_insert (shared : Shared) : (store.insert key shared).keys = store.keys ∪ {key} := by
  ext held
  simp [keys, insert]

theorem mem_keys_of_find? {shared : Shared} (hfound : store.find? key = some shared) :
    key ∈ store.keys :=
  List.mem_toFinset.mpr (List.mem_map_of_mem (mem_of_find? hfound))

theorem Valid.exists_of_mem_keys (hvalid : store.Valid) (hkey : key ∈ store.keys) :
    ∃ shared, store.find? key = some shared := by
  obtain ⟨entry, hentry, rfl⟩ := List.mem_map.mp (List.mem_toFinset.mp hkey)
  exact ⟨entry.2, hvalid.find?_eq_some_iff.mpr hentry⟩

theorem Valid.size_eq_card (hvalid : store.Valid) : store.size = store.keys.card := by
  rw [keys, List.toFinset_card_of_nodup hvalid.nodup, List.length_map]
  rfl

/-- Two valid stores hold alike patterns under a key. -/
theorem Valid.alike_of_found_of_found (hvalid : store.Valid) (hother : other.Valid)
    {shared more : Shared} (hfound : store.find? key = some shared)
    (hmore : other.find? key = some more) : shared.pattern.Alike more.pattern := by
  obtain ⟨text, given, pattern, horigin⟩ := hother.origin _ (mem_of_find? hmore)
  obtain rfl : Key.derive text given = key := horigin.derives
  obtain ⟨_, same, hcompile, halike⟩ := hvalid.alike_of_found hfound
  obtain rfl := Option.some.inj (Except.ok.inj (hcompile.symm.trans horigin.compiles))
  exact horigin.annotated ▸ halike

end Store

namespace Call

variable {call : Call} {store other : Store} {supply more : Supply}

/-- A call stores its key if its pattern compiles, and nothing else. -/
theorem mem_keys_answer {key : String} :
    key ∈ (call.answer store supply).store.keys ↔ key ∈ store.keys ∨ call.Stores key := by
  cases hkey : call.key? with
  | none => simp [store_of_no_key hkey, Stores, hkey]
  | some held =>
    obtain ⟨hallows, text, htext, rfl⟩ := key?_eq_some_iff.mp hkey
    have hstores {key : String} : call.Stores key ↔ Key.derive text call.given = key ∧
        ∃ pattern, compileText text call.given = .ok (some pattern) := by
      simp [Stores, hkey, htext]
    rw [hstores]
    have hserved := served_of_text htext hallows store supply
    generalize call.answer store supply = answer at hserved
    cases hserved with
    | hit hfound =>
      refine ⟨.inl, ?_⟩
      rintro (hheld | ⟨rfl, _⟩)
      · exact hheld
      · exact Store.mem_keys_of_find? hfound
    | failed _ hcompile => simp [hcompile]
    | suppressed _ hcompile => simp [hcompile]
    | stored _ hcompile _ => simp [Store.keys_insert, hcompile, eq_comm, or_comm]

/-- A call that asks for no text does not depend on the store. -/
theorem result_of_no_text (htext : call.text? = none) (other : Store) (more : Supply) :
    (call.answer store supply).result = (call.answer other more).result := by
  obtain ⟨method, input, given⟩ := call
  cases input with
  | missing => cases method <;> rfl
  | text text => cases method <;> cases htext
  | compiled shared => cases method <;> rfl
  | list items =>
    cases method with
    | compile => cases htext
    | make => rfl

/-- Two new stores give a call the same, whichever identities are left. -/
theorem sameResult_of_empty {text : String} (htext : call.text? = some text)
    (hsupply : 0 < supply.next) (hmore : 0 < more.next) :
    SameResult (call.answer {} supply).result (call.answer {} more).result := by
  have howned : supply.next = 0 ↔ more.next = 0 := by omega
  have hempty : ({} : Store).find? (Key.derive text call.given) = none := rfl
  rw [answer_of_text htext, answer_of_text htext]
  dsimp only [Store.makeStored, Store.makeUnstored]
  rw [hempty]
  cases compileText text call.given with
  | error failure => split <;> exact .refl (.error failure)
  | ok compiled =>
    cases compiled with
    | none => split <;> exact .refl (.ok .matchNothing)
    | some pattern => split <;> exact ⟨howned, .refl _⟩

/-- Two valid stores give a call the same. -/
theorem sameResult_of_valid_of_valid (hvalid : store.Valid) (hother : other.Valid)
    (hsupply : 0 < supply.next) (hmore : 0 < more.next) :
    SameResult (call.answer store supply).result (call.answer other more).result := by
  cases htext : call.text? with
  | none =>
    rw [result_of_no_text htext other more]
    exact .refl _
  | some text =>
    exact ((sameResult_of_valid htext hvalid hsupply).trans
      (sameResult_of_empty htext hsupply hmore)).trans
        (sameResult_of_valid htext hother hmore).symm

end Call

namespace Store

variable {store : Store} {supply : Supply} {calls : List Call}

theorem serve_valid (calls : List Call) (hvalid : store.Valid) (hsupply : 0 < supply.next) :
    (store.serve supply calls).store.Valid ∧ 0 < (store.serve supply calls).supply.next := by
  induction calls generalizing store supply with
  | nil => exact ⟨hvalid, hsupply⟩
  | cons call calls ih =>
    have hanswer := call.answer_of store hsupply
    exact ih (hanswer.valid hvalid) (Nat.lt_of_lt_of_le hsupply hanswer.next_le)

/-- The keys after a series are those before it and those that its calls store. -/
theorem mem_keys_serve {key : String} :
    key ∈ (store.serve supply calls).store.keys ↔
      key ∈ store.keys ∨ ∃ call ∈ calls, call.Stores key := by
  induction calls generalizing store supply with
  | nil => simp [serve]
  | cons call calls ih =>
    rw [serve]
    dsimp only
    rw [ih, Call.mem_keys_answer, List.exists_mem_cons_iff, or_assoc]

theorem map_fst_serve : (store.serve supply calls).results.map Prod.fst = calls := by
  induction calls generalizing store supply with
  | nil => rfl
  | cons call calls ih => exact congrArg (call :: ·) ih

/-- What a call of a series gets, it gets from a valid store. -/
theorem exists_of_mem_serve (hvalid : store.Valid) (hsupply : 0 < supply.next) {call : Call}
    {result : Except CompileError Shared}
    (hmem : (call, result) ∈ (store.serve supply calls).results) :
    ∃ (reached : Store) (left : Supply), reached.Valid ∧ 0 < left.next ∧
      (call.answer reached left).result = result := by
  induction calls generalizing store supply with
  | nil => cases hmem
  | cons first calls ih =>
    rcases List.mem_cons.mp hmem with hfirst | hrest
    · obtain ⟨rfl, rfl⟩ := Prod.mk.inj hfirst
      exact ⟨store, supply, hvalid, hsupply, rfl⟩
    · have hanswer := first.answer_of store hsupply
      exact ih (hanswer.valid hvalid) (Nat.lt_of_lt_of_le hsupply hanswer.next_le) hrest

end Store

namespace World

/-- In every world that operations lead to, a series of calls on a cache may be made in any
    order: each call gets the same, and the cache ends with the same keys, which are those it
    had and those that the calls store, with alike patterns under each. -/
theorem series_order_irrelevant {world : World} (hreach : Reaches {} world) (cache : Nat)
    {calls others : List Call} (hperm : calls.Perm others) :
    let before := world.caches cache
    let one := before.serve world.supply calls
    let other := before.serve world.supply others
    (one.results.map Prod.fst = calls ∧ other.results.map Prod.fst = others ∧
        ∀ call result more, (call, result) ∈ one.results → (call, more) ∈ other.results →
          SameResult result more) ∧
      (∀ key, key ∈ one.store.keys ↔ key ∈ before.keys ∨ ∃ call ∈ calls, call.Stores key) ∧
      other.store.keys = one.store.keys ∧
      one.store.size = one.store.keys.card ∧ other.store.size = one.store.keys.card ∧
      ∀ key ∈ one.store.keys, ∃ shared more, one.store.find? key = some shared ∧
        other.store.find? key = some more ∧ shared.pattern.Alike more.pattern := by
  intro before one other
  have hworld := valid_of_reaches hreach valid_start
  have hbefore := hworld.stores cache
  have hnext := hworld.next_pos
  obtain ⟨hone, _⟩ := Store.serve_valid calls hbefore hnext
  obtain ⟨hother, _⟩ := Store.serve_valid others hbefore hnext
  have hkeys : other.store.keys = one.store.keys := by
    ext key
    rw [Store.mem_keys_serve, Store.mem_keys_serve]
    simp only [hperm.mem_iff]
  refine ⟨⟨Store.map_fst_serve, Store.map_fst_serve, ?_⟩, fun key => Store.mem_keys_serve,
    hkeys, hone.size_eq_card, hkeys ▸ hother.size_eq_card, ?_⟩
  · intro call result more hresult hmore
    obtain ⟨reached, left, hreached, hleft, rfl⟩ :=
      Store.exists_of_mem_serve hbefore hnext hresult
    obtain ⟨last, remaining, hlast, hremaining, rfl⟩ :=
      Store.exists_of_mem_serve hbefore hnext hmore
    exact Call.sameResult_of_valid_of_valid hreached hlast hleft hremaining
  · intro key hkey
    obtain ⟨shared, hshared⟩ := hone.exists_of_mem_keys hkey
    obtain ⟨more, hmore⟩ := hother.exists_of_mem_keys (hkeys ▸ hkey)
    exact ⟨shared, more, hshared, hmore, hone.alike_of_found_of_found hother hshared hmore⟩

/-- A list, a text whose key is stored already, two texts that share a key, and a text that
    does not compile, forwards and backwards. -/
theorem series_reversed :
    let zero (x : Float) : Call := ⟨.make, .text "b", some (.ofList [("x", .float x)])⟩
    let stored : Call := ⟨.make, .text "a", none⟩
    let calls : List Call := [⟨.compile, .list [.text "a", .text "b"], none⟩, stored, zero 0.0,
      zero (-0.0), ⟨.make, .text "(", none⟩]
    let world := (perform {} (.call 0 stored)).2
    let one := (world.caches 0).serve world.supply calls
    let other := (world.caches 0).serve world.supply calls.reverse
    calls.Perm calls.reverse ∧ one.store.size = 3 ∧ other.store.keys = one.store.keys ∧
      ∀ result more, (zero 0.0, result) ∈ one.results → (zero 0.0, more) ∈ other.results →
        SameResult result more := by
  intro zero stored calls world one other
  have hreach : Reaches {} world :=
    .single (.perform (.call 0 _) (by simp [Operation.patterns, stored, Input.patterns]))
  have hperm : calls.Perm calls.reverse := calls.reverse_perm.symm
  obtain ⟨⟨_, _, hresults⟩, _, hkeys, _⟩ := series_order_irrelevant hreach 0 hperm
  exact ⟨hperm, by decide +kernel, hkeys, hresults _⟩

end World

end Patternwork
