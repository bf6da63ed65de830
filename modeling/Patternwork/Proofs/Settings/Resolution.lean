import Mathlib.Tactic.SplitIfs
import Patternwork.Negation
import Patternwork.Settings.Effective

namespace Patternwork

theorem Setting.bool?_bool (b : Bool) : (Setting.bool b).bool? = some b := rfl

/-- Where each name stands once, a look-up finds whatever stands under it. -/
theorem lookup_eq_some_iff_mem {β : Type} {entries : List (String × β)} {name : String} {value : β}
    (hnodup : (entries.map Prod.fst).Nodup) :
    entries.lookup name = some value ↔ (name, value) ∈ entries := by
  constructor
  · intro hfound
    obtain ⟨before, after, rfl, _⟩ := List.lookup_eq_some_iff.mp hfound
    exact List.mem_append_right _ (List.mem_cons_self ..)
  · intro hmem
    obtain ⟨before, after, rfl⟩ := List.append_of_mem hmem
    rw [List.map_append, List.nodup_append] at hnodup
    refine List.lookup_eq_some_iff.mpr ⟨before, after, rfl, ?_⟩
    intro entry hentry
    have hne := hnodup.2.2 _ (List.mem_map_of_mem hentry) name (List.mem_cons_self ..)
    exact bne_iff_ne.mpr hne.symm

namespace Settings

variable {settings : Settings} {given : Option Settings} {name other : String} {value : Setting}

theorem bool?_eq_some_iff {b : Bool} :
    settings.bool? name = some b ↔ settings.get? name = some (.bool b) := by
  rw [bool?]
  cases settings.get? name with
  | none => simp
  | some value => cases value <;> simp [Setting.bool?]

theorem isFalse_iff :
    settings.isFalse name = true ↔ settings.get? name = some (.bool false) :=
  beq_iff_eq.trans bool?_eq_some_iff

theorem isTrue_iff :
    settings.isTrue name = true ↔ settings.get? name = some (.bool true) :=
  beq_iff_eq.trans bool?_eq_some_iff

private theorem lookup_cons_eq (entry : String × Setting) (rest : List (String × Setting)) :
    (entry :: rest).lookup name = if name = entry.1 then some entry.2 else rest.lookup name := by
  rw [List.lookup_cons]
  by_cases hname : name = entry.1
  · simp [hname]
  · rw [if_neg hname, beq_eq_false_iff_ne.mpr hname]

theorem get?_set (settings : Settings) (name other : String) (value : Setting) :
    (settings.set name value).get? other = if other = name then some value else settings.get? other := by
  have hwrite (entries : List (String × Setting)) :
      (write name value entries).lookup other =
        if other = name then some value else entries.lookup other := by
    induction entries with
    | nil => rw [write, lookup_cons_eq]
    | cons entry rest ih =>
      rw [write, lookup_cons_eq]
      by_cases hentry : entry.1 = name
      · rw [if_pos hentry, lookup_cons_eq, hentry]
        split_ifs <;> rfl
      · rw [if_neg hentry, lookup_cons_eq, ih]
        by_cases hother : other = name
        · rw [if_pos hother, if_neg (hother ▸ Ne.symm hentry), if_pos hother]
        · rw [if_neg hother, if_neg hother]
  exact hwrite settings.entries

theorem get?_setAll (entries : List (String × Setting)) (hnodup : (entries.map Prod.fst).Nodup)
    (settings : Settings) (name : String) :
    (settings.setAll entries).get? name = (entries.lookup name).or (settings.get? name) := by
  induction entries generalizing settings with
  | nil => rfl
  | cons entry rest ih =>
    rw [List.map_cons, List.nodup_cons] at hnodup
    change ((settings.set entry.1 entry.2).setAll rest).get? name = _
    rw [ih hnodup.2, get?_set, lookup_cons_eq]
    by_cases hname : name = entry.1
    · subst hname
      have habsent : rest.lookup entry.1 = none := by
        rw [List.lookup_eq_none_iff]
        intro other hother
        have hmem := List.mem_map_of_mem (f := Prod.fst) hother
        simpa using fun heq : entry.1 = other.1 => hnodup.1 (heq ▸ hmem)
      simp [habsent]
    · simp [hname]

/-- The copy that is resolved has the values of the given record. -/
theorem get?_merge (given : Option Settings) (name : String) :
    (empty.merge given).get? name = (given.getD empty).get? name := by
  cases given with
  | none => rfl
  | some given =>
    change (empty.setAll given.entries).get? name = given.get? name
    rw [get?_setAll _ given.nodup]
    exact Option.or_none

section

variable (settings)

/-- Containment without exact negation writes `strict`, with it `strictNegate`. -/
theorem get?_implyContainment (name : String) :
    settings.implyContainment.get? name =
      if settings.isTrue Name.contains = true ∧ settings.isTrue Name.negate = true ∧
          name = Name.strictNegate then some (.bool false)
      else if settings.isTrue Name.contains = true ∧ settings.isTrue Name.negate = false ∧
          name = Name.strict then some (.bool false)
      else settings.get? name := by
  unfold implyContainment withStrictNegate withStrict
  cases settings.isTrue Name.contains <;> cases settings.isTrue Name.negate <;>
    simp [get?_set]

theorem get?_implyAnchors (name : String) :
    settings.implyAnchors.get? name =
      if settings.isFalse Name.strict = true ∧ (name = Name.strictOpen ∨ name = Name.strictClose)
        then some (.bool false)
      else settings.get? name := by
  unfold implyAnchors withStrictOpen withStrictClose
  cases settings.isFalse Name.strict <;> simp [get?_set]
  grind

end

/-- The options that resolving may write. -/
def written : List String :=
  [Name.strictNegate, Name.strict, Name.strictOpen, Name.strictClose]

/-- All other options are read as they were given. -/
theorem get?_resolve (hname : name ∉ written) :
    (resolve given).settings.get? name = (given.getD empty).get? name := by
  simp only [written, List.mem_cons, List.not_mem_nil, or_false, not_or] at hname
  change ((empty.merge given).implyContainment.implyAnchors).get? name = _
  simp [get?_implyAnchors, get?_implyContainment, hname, get?_merge]

theorem isTrue_resolve (hname : name ∉ written) :
    (resolve given).settings.isTrue name = (given.getD empty).isTrue name := by
  rw [isTrue, isTrue, bool?, bool?, get?_resolve hname]

theorem isFalse_resolve (hname : name ∉ written) :
    (resolve given).settings.isFalse name = (given.getD empty).isFalse name := by
  rw [isFalse, isFalse, bool?, bool?, get?_resolve hname]

theorem isTruthy_resolve (hname : name ∉ written) :
    (resolve given).settings.isTruthy name = (given.getD empty).isTruthy name := by
  rw [isTruthy, isTruthy, get?_resolve hname]

theorem truthyText?_resolve (hname : name ∉ written) :
    (resolve given).settings.truthyText? name = (given.getD empty).truthyText? name := by
  rw [truthyText?, truthyText?, get?_resolve hname]

theorem flags_resolve (given : Option Settings) :
    (resolve given).flags = (given.getD empty).flagLetters := by
  change (resolve given).settings.flagLetters = _
  rw [flagLetters, flagLetters, truthyText?_resolve (by decide), isTrue_resolve (by decide)]

theorem strictErrors_resolve (given : Option Settings) :
    (resolve given).strictErrors = !(given.getD empty).isFalse Name.strictErrors :=
  congrArg not (isFalse_resolve (by decide))

private theorem isTrue_merge (given : Option Settings) (name : String) :
    (empty.merge given).isTrue name = (given.getD empty).isTrue name := by
  rw [isTrue, isTrue, bool?, bool?, get?_merge]

/-- Exact containment of an exact negation loosens it. -/
theorem bool?_strictNegate_resolve (given : Option Settings) :
    (resolve given).settings.bool? Name.strictNegate =
      if (given.getD empty).isTrue Name.contains = true ∧
          (given.getD empty).isTrue Name.negate = true then some false
      else (given.getD empty).bool? Name.strictNegate := by
  change ((empty.merge given).implyContainment.implyAnchors).bool? Name.strictNegate = _
  have hnames : Name.strictNegate ≠ Name.strictOpen ∧ Name.strictNegate ≠ Name.strictClose ∧
      Name.strictNegate ≠ Name.strict := by decide
  simp only [bool?, get?_implyAnchors, get?_implyContainment, get?_merge, isTrue_merge, hnames]
  split_ifs <;> simp_all [Setting.bool?_bool]

theorem loosensNegation_resolve (given : Option Settings) :
    (resolve given).settings.loosensNegation = (given.getD empty).loosensNegation := by
  unfold loosensNegation isFalse
  rw [isTrue_resolve (by decide), bool?_strictNegate_resolve]
  cases (given.getD empty).isTrue Name.contains <;> simp

theorem isTruthy_of_isTrue (htrue : settings.isTrue name = true) :
    settings.isTruthy name = true := by
  cases hvalue : settings.get? name with
  | none => simp [isTrue, bool?, hvalue] at htrue
  | some value =>
    cases value with
    | bool b => simpa [isTrue, isTruthy, bool?, hvalue, Setting.bool?, Setting.truthy] using htrue
    | _ => simp [isTrue, bool?, hvalue, Setting.bool?] at htrue

theorem negated_resolve (given : Option Settings) :
    (resolve given).negated = (given.getD empty).asksNegation := by
  change (resolve given).settings.asksNegation = _
  unfold asksNegation
  rw [isTruthy_resolve (by decide), bool?_strictNegate_resolve]
  by_cases hexact : (given.getD empty).isTrue Name.contains = true ∧
      (given.getD empty).isTrue Name.negate = true
  · simp [isTruthy_of_isTrue hexact.2]
  · rw [if_neg hexact]

/-- Whether both anchors are dropped: containment drops them unless it loosens a negation. -/
def dropsAnchors (settings : Settings) : Bool :=
  settings.isTrue Name.contains && !settings.isTrue Name.negate || settings.isFalse Name.strict

/-- The anchors are dropped together exactly where the resolved record is not strict. -/
theorem isFalse_strict_resolve (given : Option Settings) :
    (resolve given).settings.isFalse Name.strict = (given.getD empty).dropsAnchors := by
  change ((empty.merge given).implyContainment.implyAnchors).isFalse Name.strict = _
  have hnames : Name.strict ≠ Name.strictNegate ∧ Name.strict ≠ Name.strictOpen ∧
      Name.strict ≠ Name.strictClose := by decide
  simp only [isFalse, dropsAnchors, bool?, get?_implyAnchors, get?_implyContainment, get?_merge,
    isTrue_merge, hnames]
  cases (given.getD empty).isTrue Name.contains <;>
    cases (given.getD empty).isTrue Name.negate <;> simp [Setting.bool?_bool]

theorem isFalse_anchor_resolve {anchor : String}
    (hanchor : anchor = Name.strictOpen ∨ anchor = Name.strictClose) (given : Option Settings) :
    (resolve given).settings.isFalse anchor =
      ((given.getD empty).dropsAnchors || (given.getD empty).isFalse anchor) := by
  change ((empty.merge given).implyContainment.implyAnchors).isFalse anchor = _
  have hnegate : anchor ≠ Name.strictNegate := by
    rcases hanchor with rfl | rfl <;> decide
  have hstrict : anchor ≠ Name.strict := by
    rcases hanchor with rfl | rfl <;> decide
  have hnames : Name.strict ≠ Name.strictNegate := by decide
  simp only [isFalse, dropsAnchors, bool?, get?_implyAnchors, get?_implyContainment, get?_merge,
    isTrue_merge, hanchor, hnegate, hstrict, hnames]
  cases (given.getD empty).isTrue Name.contains <;>
    cases (given.getD empty).isTrue Name.negate <;> simp [Setting.bool?_bool]
  all_goals split_ifs <;> simp_all [Setting.bool?_bool]

theorem anchoredStart_resolve (given : Option Settings) :
    (resolve given).anchoredStart =
      !((given.getD empty).dropsAnchors || (given.getD empty).isFalse Name.strictOpen) :=
  congrArg not (isFalse_anchor_resolve (.inl rfl) given)

theorem anchoredEnd_resolve (given : Option Settings) :
    (resolve given).anchoredEnd =
      !((given.getD empty).dropsAnchors || (given.getD empty).isFalse Name.strictClose) :=
  congrArg not (isFalse_anchor_resolve (.inr rfl) given)

end Settings

end Patternwork
