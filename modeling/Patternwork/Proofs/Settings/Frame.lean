import Patternwork.Proofs.Settings.Merging

namespace Patternwork.Settings

variable {a b c : Settings} {given : Option Settings} {name anchor : String} {value : Setting}

/-- One end of the pattern is left open: its anchor or all strictness is switched off, or the
    pattern is to be contained and not negated. -/
def LeavesOpen (raw : Settings) (anchor : String) : Prop :=
  raw.get? anchor = some (.bool false) ∨ raw.get? Name.strict = some (.bool false) ∨
    raw.get? Name.contains = some (.bool true) ∧ raw.get? Name.negate ≠ some (.bool true)

theorem leavesOpen_iff (raw : Settings) (anchor : String) :
    raw.LeavesOpen anchor ↔ (raw.dropsAnchors || raw.isFalse anchor) = true := by
  have hnegate : raw.isTrue Name.negate = false ↔ raw.get? Name.negate ≠ some (.bool true) := by
    rw [ne_eq, ← isTrue_iff, Bool.not_eq_true]
  simp only [LeavesOpen, dropsAnchors, Bool.or_eq_true, Bool.and_eq_true, Bool.not_eq_true',
    isTrue_iff, isFalse_iff, hnegate]
  grind

theorem asksNegation_iff (raw : Settings) :
    raw.asksNegation = true ↔
      (∃ value, raw.get? Name.negate = some value ∧ value.truthy = true) ∨
        ∃ b, raw.get? Name.strictNegate = some (.bool b) := by
  rw [asksNegation, Bool.or_eq_true, isTruthy, Option.any_eq_true, Option.isSome_iff_exists]
  simp only [bool?_eq_some_iff]

/-- A record goes over into another one by switching options off that resolving may write: all
    entries stay in place, and those that are added come after them. -/
structure SwitchesOff (a b : Settings) : Prop where
  kept : ∀ (i : Nat) (name : String) (value : Setting), a.entries[i]? = some (name, value) →
    ∃ now, b.entries[i]? = some (name, now) ∧
      (now = value ∨ name ∈ written ∧ now = .bool false)
  added : ∀ (i : Nat) (name : String) (value : Setting), a.size ≤ i →
    b.entries[i]? = some (name, value) → name ∈ written ∧ value = .bool false

namespace SwitchesOff

theorem refl (a : Settings) : a.SwitchesOff a := by
  constructor
  case kept => exact fun i name value hentry => ⟨value, hentry, .inl rfl⟩
  case added =>
    intro i name value hi hentry
    rw [List.getElem?_eq_none hi] at hentry
    cases hentry

theorem trans (hab : a.SwitchesOff b) (hbc : b.SwitchesOff c) : a.SwitchesOff c := by
  constructor
  case kept =>
    intro i name value hentry
    obtain ⟨now, hnow, hvalue⟩ := hab.kept i name value hentry
    obtain ⟨last, hlast, hagain⟩ := hbc.kept i name now hnow
    refine ⟨last, hlast, ?_⟩
    rcases hagain with rfl | hoff
    · exact hvalue
    · exact .inr hoff
  case added =>
    intro i name value hi hentry
    by_cases hold : b.size ≤ i
    · exact hbc.added i name value hold hentry
    · -- The entry was added on the way, and may have been switched off again.
      obtain ⟨⟨added, before⟩, hbefore⟩ : ∃ entry, b.entries[i]? = some entry :=
        ⟨_, List.getElem?_eq_getElem (Nat.lt_of_not_le hold)⟩
      obtain ⟨hname, hfalse⟩ := hab.added i added before hi hbefore
      obtain ⟨now, hnow, hvalue⟩ := hbc.kept i added before hbefore
      obtain ⟨rfl, rfl⟩ := Prod.mk.inj (Option.some.inj (hentry.symm.trans hnow))
      refine ⟨hname, ?_⟩
      rcases hvalue with hsame | ⟨_, hoff⟩
      · exact hsame.trans hfalse
      · exact hoff

/-- One option is switched off, in its place or after all entries. -/
theorem set (hname : name ∈ written) (a : Settings) :
    a.SwitchesOff (a.set name (.bool false)) := by
  by_cases hmem : name ∈ a.names
  · have hentries := entries_set_of_mem hmem (.bool false)
    constructor
    case kept =>
      intro i other value hentry
      rw [hentries, List.getElem?_map, hentry]
      by_cases hother : other = name
      · subst hother
        exact ⟨.bool false, by simp, .inr ⟨hname, rfl⟩⟩
      · exact ⟨value, by simp [hother], .inl rfl⟩
    case added =>
      intro i other value hi hentry
      rw [hentries, List.getElem?_map, List.getElem?_eq_none hi] at hentry
      cases hentry
  · have hentries := entries_set_of_not_mem hmem (.bool false)
    constructor
    case kept =>
      intro i other value hentry
      refine ⟨value, ?_, .inl rfl⟩
      rw [hentries, List.getElem?_append_left (List.getElem?_eq_some_iff.mp hentry).1, hentry]
    case added =>
      intro i other value hi hentry
      rw [hentries, List.getElem?_append_right hi] at hentry
      obtain ⟨rfl, rfl⟩ : name = other ∧ .bool false = value := by
        have hlast := List.mem_of_getElem? hentry
        simpa [eq_comm] using hlast
      exact ⟨hname, rfl⟩

theorem implyContainment (settings : Settings) :
    settings.SwitchesOff settings.implyContainment := by
  unfold Settings.implyContainment
  split
  · split
    · exact set (by decide) settings
    · exact set (by decide) settings
  · exact refl settings

theorem implyAnchors (settings : Settings) : settings.SwitchesOff settings.implyAnchors := by
  unfold Settings.implyAnchors
  split
  · exact (set (by decide) settings).trans (set (by decide) _)
  · exact refl settings

theorem resolve (given : Option Settings) :
    (given.getD empty).SwitchesOff (Settings.resolve given).settings := by
  change (given.getD empty).SwitchesOff (empty.merge given).implyContainment.implyAnchors
  rw [merge_of_empty]
  exact (implyContainment _).trans (implyAnchors _)

/-- An added name is none that the record had. -/
theorem not_mem_names (hoff : a.SwitchesOff b) {i : Nat} (hi : a.size ≤ i)
    (hentry : b.entries[i]? = some (name, value)) : name ∉ a.names := by
  intro hmem
  obtain ⟨⟨_, before⟩, hbefore, hname⟩ := List.mem_map.mp hmem
  obtain ⟨j, hj, hat⟩ := List.mem_iff_getElem.mp hbefore
  have hold : a.entries[j]? = some (name, before) := by
    rw [List.getElem?_eq_getElem hj, hat, ← hname]
  obtain ⟨now, hnow, _⟩ := hoff.kept j name before hold
  have hsame : (b.entries.map Prod.fst)[i]? = (b.entries.map Prod.fst)[j]? := by
    simp [hentry, hnow]
  have hlt : i < (b.entries.map Prod.fst).length := by
    rw [List.length_map]
    exact (List.getElem?_eq_some_iff.mp hentry).1
  have heq : i = j := (List.getElem?_inj hlt b.nodup).mp hsame
  have hsize : a.entries.length ≤ i := hi
  omega

end SwitchesOff

/-- The copy differs in an anchor, in a negation that exact containment loosens, or in the
    strictness that containment alone drops. -/
theorem get?_resolve_cases (given : Option Settings) (name : String) :
    (resolve given).settings.get? name = (given.getD empty).get? name ∨
      (resolve given).settings.get? name = some (.bool false) ∧
        ((name = Name.strictOpen ∨ name = Name.strictClose) ∨
          name = Name.strictNegate ∧ (given.getD empty).isTrue Name.contains = true ∧
            (given.getD empty).isTrue Name.negate = true ∨
          name = Name.strict ∧ (given.getD empty).isTrue Name.contains = true ∧
            (given.getD empty).isTrue Name.negate = false) := by
  have hget : (resolve given).settings.get? name =
      (given.getD empty).implyContainment.implyAnchors.get? name := by
    rw [← merge_of_empty]
    rfl
  rw [hget, get?_implyAnchors, get?_implyContainment]
  split
  next hanchor => exact .inr ⟨rfl, .inl hanchor.2⟩
  next =>
    split
    next hloosened =>
      obtain ⟨hcontains, hnegate, hname⟩ := hloosened
      exact .inr ⟨rfl, .inr (.inl ⟨hname, hcontains, hnegate⟩)⟩
    next =>
      split
      next hdropped =>
        obtain ⟨hcontains, hnegate, hname⟩ := hdropped
        exact .inr ⟨rfl, .inr (.inr ⟨hname, hcontains, hnegate⟩)⟩
      next => exact .inl rfl

/-- The pattern begins with its anchor unless its start is left open. -/
theorem opening_resolve (given : Option Settings) :
    ((given.getD empty).LeavesOpen Name.strictOpen → (resolve given).opening = "") ∧
      (¬ (given.getD empty).LeavesOpen Name.strictOpen → (resolve given).opening = "^") := by
  have hstart := anchoredStart_resolve given
  constructor
  · intro hopen
    rw [(leavesOpen_iff _ _).mp hopen] at hstart
    simp [Effective.opening, hstart]
  · intro hopen
    rw [eq_false_of_ne_true (mt (leavesOpen_iff _ _).mpr hopen)] at hstart
    simp [Effective.opening, hstart]

/-- The pattern ends with its anchor unless its end is left open. -/
theorem closing_resolve (given : Option Settings) :
    ((given.getD empty).LeavesOpen Name.strictClose → (resolve given).closing = "") ∧
      (¬ (given.getD empty).LeavesOpen Name.strictClose → (resolve given).closing = "$") := by
  have hend := anchoredEnd_resolve given
  constructor
  · intro hopen
    rw [(leavesOpen_iff _ _).mp hopen] at hend
    simp [Effective.closing, hend]
  · intro hopen
    rw [eq_false_of_ne_true (mt (leavesOpen_iff _ _).mpr hopen)] at hend
    simp [Effective.closing, hend]

/-- What a record resolves to, in terms of that record alone: its anchors, whether it is negated,
    and the copy with the implied options. The copy has every entry in its place, after these
    only options that were switched off, and another value only where it switches one off. -/
theorem resolution_table (given : Option Settings) :
    let raw := given.getD empty
    let resolved := resolve given
    (raw.LeavesOpen Name.strictOpen → resolved.opening = "") ∧
    (¬ raw.LeavesOpen Name.strictOpen → resolved.opening = "^") ∧
    (raw.LeavesOpen Name.strictClose → resolved.closing = "") ∧
    (¬ raw.LeavesOpen Name.strictClose → resolved.closing = "$") ∧
    (resolved.negated = true ↔
      (∃ value, raw.get? Name.negate = some value ∧ value.truthy = true) ∨
        ∃ b, raw.get? Name.strictNegate = some (.bool b)) ∧
    (∀ (i : Nat) (name : String) (value : Setting), raw.entries[i]? = some (name, value) →
      ∃ now, resolved.settings.entries[i]? = some (name, now) ∧
        (now = value ∨ name ∈ written ∧ now = .bool false)) ∧
    (∀ (i : Nat) (name : String) (value : Setting), raw.size ≤ i →
      resolved.settings.entries[i]? = some (name, value) →
        name ∈ written ∧ name ∉ raw.names ∧ value = .bool false) ∧
    (∀ name, name ∉ written → resolved.settings.get? name = raw.get? name) ∧
    ∀ name, resolved.settings.get? name ≠ raw.get? name →
      resolved.settings.get? name = some (.bool false) ∧
      (name = Name.strictNegate → raw.get? Name.contains = some (.bool true) ∧
        raw.get? Name.negate = some (.bool true)) ∧
      (name = Name.strict → raw.get? Name.contains = some (.bool true) ∧
        raw.get? Name.negate ≠ some (.bool true)) := by
  intro raw resolved
  have hoff : raw.SwitchesOff resolved.settings := .resolve given
  obtain ⟨hopened, hanchored⟩ := opening_resolve given
  obtain ⟨hended, hclosed⟩ := closing_resolve given
  refine ⟨hopened, hanchored, hended, hclosed, ?_, hoff.kept, ?_,
    fun name hname => get?_resolve hname, ?_⟩
  · rw [negated_resolve]
    exact asksNegation_iff raw
  · intro i name value hi hentry
    obtain ⟨hname, hfalse⟩ := hoff.added i name value hi hentry
    exact ⟨hname, hoff.not_mem_names hi hentry, hfalse⟩
  · intro name hdiffers
    obtain ⟨hfalse, hcase⟩ := (get?_resolve_cases given name).resolve_left hdiffers
    refine ⟨hfalse, ?_, ?_⟩
    · rintro rfl
      rcases hcase with hanchor | ⟨_, hcontains, hnegate⟩ | ⟨hstrict, _⟩
      · exact absurd hanchor (by decide)
      · exact ⟨isTrue_iff.mp hcontains, isTrue_iff.mp hnegate⟩
      · exact absurd hstrict (by decide)
    · rintro rfl
      rcases hcase with hanchor | ⟨hloosened, _⟩ | ⟨_, hcontains, hnegate⟩
      · exact absurd hanchor (by decide)
      · exact absurd hloosened (by decide)
      · rw [← Bool.not_eq_true, isTrue_iff] at hnegate
        exact ⟨isTrue_iff.mp hcontains, hnegate⟩

/-- Containment drops a strictness that was asked for in its place, and the anchors after it. -/
example :
    (resolve (some (ofList [("strict", .bool true), ("x", .int 0), ("contains", .bool true),
      ("strictClose", .text "")]))).settings.entries =
        [("strict", .bool false), ("x", .int 0), ("contains", .bool true),
          ("strictClose", .bool false), ("strictOpen", .bool false)] := by
  decide

end Patternwork.Settings
