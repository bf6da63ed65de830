import Patternwork.Proofs.Settings.History

namespace Patternwork.Settings

variable {settings : Settings} {given : Option Settings} {name : String} {value : Setting}

/-- A record that holds already what its options imply. -/
structure Saturated (settings : Settings) : Prop where
  strictNegate : settings.isTrue Name.contains = true → settings.isTrue Name.negate = true →
    settings.isFalse Name.strictNegate = true
  strict : settings.isTrue Name.contains = true → settings.isTrue Name.negate = false →
    settings.isFalse Name.strict = true
  strictOpen : settings.isFalse Name.strict = true → settings.isFalse Name.strictOpen = true
  strictClose : settings.isFalse Name.strict = true → settings.isFalse Name.strictClose = true

/-- What is resolved has been saturated. -/
theorem saturated_resolve (given : Option Settings) : (resolve given).settings.Saturated := by
  have hcontains : (resolve given).settings.isTrue Name.contains =
      (given.getD empty).isTrue Name.contains := isTrue_resolve (by decide)
  have hnegate : (resolve given).settings.isTrue Name.negate =
      (given.getD empty).isTrue Name.negate := isTrue_resolve (by decide)
  constructor
  case strictNegate =>
    rw [hcontains, hnegate]
    intro hcontained hexact
    rw [isFalse, bool?_strictNegate_resolve, if_pos ⟨hcontained, hexact⟩]
    rfl
  case strict =>
    rw [hcontains, hnegate, isFalse_strict_resolve, dropsAnchors]
    intro hcontained hinexact
    simp [hcontained, hinexact]
  case strictOpen =>
    rw [isFalse_strict_resolve, isFalse_anchor_resolve (.inl rfl)]
    intro hdrops
    rw [hdrops, Bool.true_or]
  case strictClose =>
    rw [isFalse_strict_resolve, isFalse_anchor_resolve (.inr rfl)]
    intro hdrops
    rw [hdrops, Bool.true_or]

/-- Writing a value where it stands changes nothing. -/
theorem set_eq_self (hvalue : settings.get? name = some value) :
    settings.set name value = settings := by
  have hwrite (entries : List (String × Setting)) (hvalue : entries.lookup name = some value) :
      write name value entries = entries := by
    induction entries with
    | nil => cases hvalue
    | cons entry rest ih =>
      by_cases hentry : entry.1 = name
      · subst hentry
        rw [List.lookup_cons_self, Option.some.injEq] at hvalue
        rw [write, if_pos rfl, ← hvalue]
      · rw [List.lookup_cons, beq_false_of_ne (Ne.symm hentry)] at hvalue
        rw [write, if_neg hentry, ih hvalue]
  have hentries := hwrite settings.entries hvalue
  cases settings
  simpa [set] using hentries

theorem set_false_eq_self (hfalse : settings.isFalse name = true) :
    settings.set name (.bool false) = settings :=
  set_eq_self (isFalse_iff.mp hfalse)

namespace Saturated

theorem implyContainment_eq (hsaturated : settings.Saturated) :
    settings.implyContainment = settings := by
  unfold implyContainment
  split
  next hcontains =>
    split
    next hnegate => exact set_false_eq_self (hsaturated.strictNegate hcontains hnegate)
    next hnegate =>
      exact set_false_eq_self (hsaturated.strict hcontains (eq_false_of_ne_true hnegate))
  next => rfl

theorem implyAnchors_eq (hsaturated : settings.Saturated) : settings.implyAnchors = settings := by
  unfold implyAnchors
  split
  next hstrict =>
    have hopen : settings.withStrictOpen false = settings :=
      set_false_eq_self (hsaturated.strictOpen hstrict)
    rw [hopen]
    exact set_false_eq_self (hsaturated.strictClose hstrict)
  next => rfl

/-- Nothing is written into a copy of a saturated record. -/
theorem settings_resolve (hsaturated : settings.Saturated) :
    (resolve (some settings)).settings = settings := by
  have hcopy : empty.merge (some settings) = settings := ofList_entries settings
  change ((empty.merge (some settings)).implyContainment).implyAnchors = settings
  rw [hcopy, hsaturated.implyContainment_eq, hsaturated.implyAnchors_eq]

end Saturated

/-- Resolving what was resolved gives the same configuration, as all of it is read off the
    record. -/
theorem resolve_resolve (given : Option Settings) :
    resolve (some (resolve given).settings) = resolve given := by
  have hread (options : Option Settings) : resolve options =
      { settings := (resolve options).settings
        anchoredStart := !(resolve options).settings.isFalse Name.strictOpen
        anchoredEnd := !(resolve options).settings.isFalse Name.strictClose
        flags := (resolve options).settings.flagLetters
        negated := (resolve options).settings.asksNegation } := rfl
  rw [hread (some _), (saturated_resolve given).settings_resolve]
  rfl

end Patternwork.Settings
