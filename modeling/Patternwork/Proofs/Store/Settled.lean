import Patternwork.Proofs.Store.Effect

namespace Patternwork

/-- Every call with this key is answered with `shared`: it is stored, or it stands for a
    failure that every such call suppresses. -/
def Store.Settled (store : Store) (key : String) (shared : Shared) : Prop :=
  store.find? key = some shared ∨
    shared = .matchNothing ∧
      ∀ text given, Key.derive text given = key → compileText text given = .ok none

namespace Call

variable {call : Call} {key : String} {store : Store} {shared : Shared} {supply : Supply}

theorem served_of_key (hkey : call.key? = some key) (store : Store) (supply : Supply) :
    ∃ text, Key.derive text call.given = key ∧
      Store.Served store supply text call.given (call.answer store supply) := by
  obtain ⟨hallows, text, htext, hderive⟩ := key?_eq_some_iff.mp hkey
  exact ⟨text, hderive, served_of_text htext hallows store supply⟩

/-- A pattern that was returned for a key settles the key. -/
theorem settled_of_answer (hkey : call.key? = some key)
    (hresult : (call.answer store supply).result = .ok shared) :
    (call.answer store supply).store.Settled key shared := by
  obtain ⟨text, rfl, hserved⟩ := served_of_key hkey store supply
  generalize call.answer store supply = answer at hserved hresult
  cases hserved with
  | hit hfound =>
    obtain rfl := Except.ok.inj hresult
    exact .inl hfound
  | failed => cases hresult
  | suppressed _ hcompile =>
    obtain rfl := Except.ok.inj hresult
    refine .inr ⟨rfl, ?_⟩
    intro other given hother
    obtain ⟨rfl, halike⟩ := (Key.derive_eq_iff_alikeGiven _ _ _ _).mp hother
    exact (halike.compileText_iff other none).mpr hcompile
  | stored habsent =>
    obtain rfl := Except.ok.inj hresult
    exact .inl (Store.find?_insert_self habsent _)

/-- Once a key is settled, a call with it is answered with the settled pattern and changes
    nothing. -/
theorem answer_of_settled (hvalid : store.Valid) (hkey : call.key? = some key)
    (hsettled : store.Settled key shared) (supply : Supply) :
    call.answer store supply = ⟨.ok shared, store, supply⟩ := by
  rcases hsettled with hfound | ⟨rfl, hnone⟩
  · exact answer_of_found hkey hfound supply
  · obtain ⟨text, hderive, hserved⟩ := served_of_key hkey store supply
    have hcompile := hnone text call.given hderive
    generalize call.answer store supply = answer at hserved
    cases hserved with
    | hit hfound =>
      -- An entry under this key would mean that the text compiles to a pattern.
      obtain ⟨other, given, pattern, horigin⟩ := hvalid.origin _ (Store.mem_of_find? hfound)
      have hsome : compileText text call.given = .ok (some pattern) :=
        horigin.compileText_eq rfl
      rw [hcompile] at hsome
      cases hsome
    | failed _ herror =>
      rw [hcompile] at herror
      cases herror
    | suppressed => rfl
    | stored _ hsome =>
      rw [hcompile] at hsome
      cases hsome

/-- A new object for a key is returned and stored; otherwise the store is left alone. -/
theorem made_cases (hkey : call.key? = some key) (store : Store) (supply : Supply) :
    (call.answer store supply).supply = supply ∧ (call.answer store supply).store = store ∨
      ∃ shared, store.find? key = none ∧ (call.answer store supply).supply ≠ supply ∧
        (call.answer store supply).result = .ok shared ∧
        (call.answer store supply).store = store.insert key shared := by
  obtain ⟨text, rfl, hserved⟩ := served_of_key hkey store supply
  generalize call.answer store supply = answer at hserved
  cases hserved with
  | hit => exact .inl ⟨rfl, rfl⟩
  | failed => exact .inl ⟨rfl, rfl⟩
  | suppressed => exact .inl ⟨rfl, rfl⟩
  | stored habsent =>
    refine .inr ⟨_, habsent, ?_, rfl, rfl⟩
    intro hsupply
    have hnext := congrArg Supply.next hsupply
    simp at hnext

end Call

namespace Store

theorem Settled.of_extended {store later : Store} {key : String} {shared : Shared}
    (hsettled : store.Settled key shared) (hcontinues : store.entries <+: later.entries) :
    later.Settled key shared := by
  rcases hsettled with hfound | hsentinel
  · exact .inl (find?_of_extended hcontinues hfound)
  · exact .inr hsentinel

end Store

end Patternwork
