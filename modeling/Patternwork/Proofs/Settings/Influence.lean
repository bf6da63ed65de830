import Patternwork.Compilation
import Patternwork.Proofs.Settings.Alike
import Patternwork.Proofs.Settings.Resolution

namespace Patternwork.Settings

/-- The options of which it only counts whether they are exactly `true` or exactly `false`. -/
def switches : List String :=
  [Name.contains, Name.negate, Name.strictNegate, Name.strict, Name.strictOpen, Name.strictClose,
    Name.nocase, Name.strictErrors]

/-- The switches that bear on the text that is assembled. -/
def shaping : List String :=
  [Name.contains, Name.negate, Name.strictNegate, Name.strict, Name.strictOpen, Name.strictClose]

/-- The options of which the text counts, if it is truthy. -/
def texts : List String := [Name.flags, Name.endChar]

/-- Records that ask for the same wherever a text is compiled. -/
structure Agree (a b : Settings) : Prop where
  bool?_eq : ∀ name ∈ switches, a.bool? name = b.bool? name
  isTruthy_eq : a.isTruthy Name.negate = b.isTruthy Name.negate
  truthyText?_eq : ∀ name ∈ texts, a.truthyText? name = b.truthyText? name

/-- Records under which the same text is assembled. -/
structure AgreeOnShape (a b : Settings) : Prop where
  bool?_eq : ∀ name ∈ shaping, a.bool? name = b.bool? name
  isTruthy_eq : a.isTruthy Name.negate = b.isTruthy Name.negate
  truthyText?_eq : a.truthyText? Name.endChar = b.truthyText? Name.endChar

variable {a b : Settings} {given other : Option Settings} {name : String}

theorem Alike.agree (halike : a.Alike b) : a.Agree b :=
  ⟨fun name _ => halike.bool?_eq name, halike.isTruthy_eq _,
    fun name _ => halike.truthyText?_eq name⟩

/-- Values of options that do not count may differ. -/
theorem agree_of_get?_eq (hget : ∀ name ∈ switches ++ texts, a.get? name = b.get? name) :
    a.Agree b := by
  constructor
  case bool?_eq =>
    intro name hname
    rw [bool?, bool?, hget name (List.mem_append_left _ hname)]
  case isTruthy_eq => rw [isTruthy, isTruthy, hget Name.negate (by decide)]
  case truthyText?_eq =>
    intro name hname
    rw [truthyText?, truthyText?, hget name (List.mem_append_right _ hname)]

theorem Agree.shape (hagree : a.Agree b) : a.AgreeOnShape b := by
  have hswitches : ∀ name ∈ shaping, name ∈ switches := by decide
  exact ⟨fun name hname => hagree.bool?_eq name (hswitches name hname), hagree.isTruthy_eq,
    hagree.truthyText?_eq _ (by decide)⟩

theorem agreeOnShape_of_get?_eq
    (hget : ∀ name, name ≠ Name.flags → name ≠ Name.nocase → a.get? name = b.get? name) :
    a.AgreeOnShape b := by
  have hshaping : ∀ name ∈ shaping, name ≠ Name.flags ∧ name ≠ Name.nocase := by decide
  constructor
  case bool?_eq =>
    intro name hname
    rw [bool?, bool?, hget name (hshaping name hname).1 (hshaping name hname).2]
  case isTruthy_eq => rw [isTruthy, isTruthy, hget Name.negate (by decide) (by decide)]
  case truthyText?_eq => rw [truthyText?, truthyText?, hget Name.endChar (by decide) (by decide)]

/-- A look-up depends on neither the order of the entries nor those under other names. -/
theorem get?_eq_of_perm_filter {names : List String}
    (hperm : (a.entries.filter (·.1 ∈ names)).Perm (b.entries.filter (·.1 ∈ names)))
    (hname : name ∈ names) : a.get? name = b.get? name := by
  apply Option.ext
  intro value
  have hmem := hperm.mem_iff (a := (name, value))
  rw [get?, get?, lookup_eq_some_iff_mem a.nodup, lookup_eq_some_iff_mem b.nodup]
  simpa [List.mem_filter, hname] using hmem

namespace AgreeOnShape

theorem isTrue_eq (hagree : a.AgreeOnShape b) (hname : name ∈ shaping) :
    a.isTrue name = b.isTrue name := by
  rw [isTrue, isTrue, hagree.bool?_eq name hname]

theorem isFalse_eq (hagree : a.AgreeOnShape b) (hname : name ∈ shaping) :
    a.isFalse name = b.isFalse name := by
  rw [isFalse, isFalse, hagree.bool?_eq name hname]

theorem dropsAnchors_eq (hagree : a.AgreeOnShape b) : a.dropsAnchors = b.dropsAnchors := by
  rw [dropsAnchors, dropsAnchors, hagree.isTrue_eq (by decide), hagree.isTrue_eq (by decide),
    hagree.isFalse_eq (by decide)]

theorem asksNegation_eq (hagree : a.AgreeOnShape b) : a.asksNegation = b.asksNegation := by
  rw [asksNegation, asksNegation, hagree.isTruthy_eq, hagree.bool?_eq _ (by decide)]

theorem loosensNegation_eq (hagree : a.AgreeOnShape b) :
    a.loosensNegation = b.loosensNegation := by
  rw [loosensNegation, loosensNegation, hagree.isTrue_eq (by decide),
    hagree.isFalse_eq (by decide)]

section Resolved

variable (hagree : (given.getD empty).AgreeOnShape (other.getD empty))
include hagree

theorem negation_eq (text : String) :
    negation text (resolve given).settings = negation text (resolve other).settings := by
  have hquantifier : (resolve given).settings.negationQuantifier =
      (resolve other).settings.negationQuantifier := by
    rw [negationQuantifier, negationQuantifier, truthyText?_resolve (by decide),
      truthyText?_resolve (by decide), hagree.truthyText?_eq]
  rw [negation, negation, loosensNegation_resolve, loosensNegation_resolve,
    hagree.loosensNegation_eq, hquantifier]

theorem opening_eq : (resolve given).opening = (resolve other).opening := by
  rw [Effective.opening, Effective.opening, anchoredStart_resolve, anchoredStart_resolve,
    hagree.dropsAnchors_eq, hagree.isFalse_eq (by decide)]

theorem closing_eq : (resolve given).closing = (resolve other).closing := by
  rw [Effective.closing, Effective.closing, anchoredEnd_resolve, anchoredEnd_resolve,
    hagree.dropsAnchors_eq, hagree.isFalse_eq (by decide)]

/-- The same text is compiled, although the records that were resolved may differ. -/
theorem assembled_eq (text : String) :
    (resolve given).assembled text = (resolve other).assembled text := by
  have hbody : (resolve given).body text = (resolve other).body text := by
    rw [Effective.body, Effective.body, negated_resolve, negated_resolve, hagree.asksNegation_eq,
      hagree.negation_eq]
  rw [Effective.assembled, Effective.assembled, hagree.opening_eq, hagree.closing_eq, hbody]

end Resolved

end AgreeOnShape

namespace Agree

theorem flagLetters_eq (hagree : a.Agree b) : a.flagLetters = b.flagLetters := by
  rw [flagLetters, flagLetters, hagree.truthyText?_eq _ (by decide), isTrue, isTrue,
    hagree.bool?_eq _ (by decide)]

section Resolved

variable (hagree : (given.getD empty).Agree (other.getD empty))
include hagree

theorem flags_eq : (resolve given).flags = (resolve other).flags := by
  rw [flags_resolve, flags_resolve, hagree.flagLetters_eq]

theorem strictErrors_eq : (resolve given).strictErrors = (resolve other).strictErrors := by
  rw [strictErrors_resolve, strictErrors_resolve, isFalse, isFalse,
    hagree.bool?_eq _ (by decide)]

theorem assembled_eq (text : String) :
    (resolve given).assembled text = (resolve other).assembled text :=
  hagree.shape.assembled_eq text

end Resolved

end Agree

end Patternwork.Settings
