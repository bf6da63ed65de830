import Patternwork.Key
import Patternwork.Proofs.Decimal.Text
import Patternwork.Settings.Effective
import Std.Data.String.ToInt

namespace Patternwork

/-- Values of one kind that are equal, or both zero, or both NaN. -/
def Setting.Alike : Setting → Setting → Prop
  | .bool a, .bool b => a = b
  | .int a, .int b => a = b
  | .float x, .float y => x == y ∨ x.isNaN ∧ y.isNaN
  | .text s, .text t => s = t
  | _, _ => False

/-- Entries with the same name and alike values. -/
def Settings.AlikeEntry (x y : String × Setting) : Prop :=
  x.1 = y.1 ∧ x.2.Alike y.2

/-- Records of the same length with alike entries at every position. -/
def Settings.Alike (a b : Settings) : Prop :=
  List.Forall₂ AlikeEntry a.entries b.entries

namespace Setting

/-- Values are alike when their kinds and their texts are the same. -/
theorem alike_iff (a b : Setting) : a.Alike b ↔ a.tag = b.tag ∧ a.display = b.display := by
  have hint (n m : Int64) : toString n.toInt = toString m.toInt ↔ n = m := by
    change n.toInt.repr = m.toInt.repr ↔ n = m
    rw [Int.repr_inj, Int64.toInt_inj]
  cases a <;> cases b
  case bool.bool a b => cases a <;> cases b <;> simp [Alike, tag, display]
  case int.int n m =>
    change n = m ↔ 'i' = 'i' ∧ toString n.toInt = toString m.toInt
    rw [hint, and_iff_right rfl]
  case float.float x y =>
    change (x == y ∨ x.isNaN ∧ y.isNaN) ↔
      'f' = 'f' ∧ (float x).display = (float y).display
    rw [and_iff_right rfl, Decimal.Reading.display_float, Decimal.Reading.display_float,
      Decimal.Reading.text_eq_iff (Decimal.Reading.canonical_ofFloat x)
        (Decimal.Reading.canonical_ofFloat y), ← Decimal.Reading.beq_or_isNaN_iff]
  case text.text s t => simp [Alike, tag, display]
  all_goals simp [Alike, tag]

theorem Alike.refl (a : Setting) : a.Alike a := (alike_iff a a).mpr ⟨rfl, rfl⟩

theorem Alike.symm {a b : Setting} (h : a.Alike b) : b.Alike a := by
  obtain ⟨htag, hdisplay⟩ := (alike_iff a b).mp h
  exact (alike_iff b a).mpr ⟨htag.symm, hdisplay.symm⟩

theorem Alike.trans {a b c : Setting} (hab : a.Alike b) (hbc : b.Alike c) : a.Alike c := by
  obtain ⟨htag, hdisplay⟩ := (alike_iff a b).mp hab
  obtain ⟨hthen, hnext⟩ := (alike_iff b c).mp hbc
  exact (alike_iff a c).mpr ⟨htag.trans hthen, hdisplay.trans hnext⟩

/-- Only a float can be alike without being equal. -/
theorem Alike.eq_or_float {a b : Setting} (h : a.Alike b) :
    a = b ∨ ∃ x y, a = .float x ∧ b = .float y := by
  cases a <;> cases b <;> simp_all [Alike]

theorem Alike.bool?_eq {a b : Setting} (h : a.Alike b) : a.bool? = b.bool? := by
  rcases h.eq_or_float with rfl | ⟨x, y, rfl, rfl⟩ <;> rfl

theorem Alike.display_eq {a b : Setting} (h : a.Alike b) : a.display = b.display :=
  ((alike_iff a b).mp h).2

private theorem truthy_float_iff (x : Float) :
    (float x).truthy = true ↔
      (Decimal.Reading.ofFloat x).unsignedZero ≠ .zero false ∧
      (Decimal.Reading.ofFloat x).unsignedZero ≠ .notANumber := by
  have hzero : x == 0.0 ↔ (Decimal.Reading.ofFloat x).unsignedZero = .zero false := by
    have h := Decimal.Reading.beq_or_isNaN_iff x 0.0
    have hread : Decimal.Reading.ofFloat 0.0 = .zero false := rfl
    have hnan : ¬ (0.0 : Float).isNaN = true := by
      rw [Decimal.Reading.isNaN_iff, hread]
      exact Decimal.Reading.noConfusion
    rw [or_iff_left fun hboth => hnan hboth.2, hread] at h
    exact h
  have hnan : x.isNaN = true ↔ (Decimal.Reading.ofFloat x).unsignedZero = .notANumber := by
    rw [Decimal.Reading.isNaN_iff]
    cases Decimal.Reading.ofFloat x <;> simp [Decimal.Reading.unsignedZero]
  rw [ne_eq, ne_eq, ← hzero, ← hnan]
  simp [truthy, bne]

/-- Neither the sign of a zero nor the form of a NaN makes a value truthy. -/
theorem Alike.truthy_eq {a b : Setting} (h : a.Alike b) : a.truthy = b.truthy := by
  rcases h.eq_or_float with rfl | ⟨x, y, rfl, rfl⟩
  · rfl
  · have hread := (Decimal.Reading.beq_or_isNaN_iff x y).mp h
    rw [Bool.eq_iff_iff, truthy_float_iff, truthy_float_iff, hread]

end Setting

namespace Settings

theorem Alike.refl (a : Settings) : a.Alike a :=
  List.forall₂_same.mpr fun _ _ => ⟨rfl, .refl _⟩

theorem Alike.symm {a b : Settings} (h : a.Alike b) : b.Alike a :=
  (h.imp fun _ _ hentry => ⟨hentry.1.symm, hentry.2.symm⟩).flip

theorem Alike.trans {a b c : Settings} (hab : a.Alike b) (hbc : b.Alike c) : a.Alike c := by
  have htrans {xs ys zs : List (String × Setting)} (hxy : List.Forall₂ AlikeEntry xs ys)
      (hyz : List.Forall₂ AlikeEntry ys zs) : List.Forall₂ AlikeEntry xs zs := by
    induction hxy generalizing zs with
    | nil => exact hyz
    | cons hentry _ ih =>
      cases hyz with
      | cons hnext hrest =>
        exact .cons ⟨hentry.1.trans hnext.1, hentry.2.trans hnext.2⟩ (ih hrest)
  exact htrans hab hbc

/-- Alike records have alike values under a name, or both have none. -/
theorem Alike.get?_cases {a b : Settings} (h : a.Alike b) (name : String) :
    (a.get? name = none ∧ b.get? name = none) ∨
      ∃ x y, a.get? name = some x ∧ b.get? name = some y ∧ x.Alike y := by
  have hlookup {xs ys : List (String × Setting)} (hxs : List.Forall₂ AlikeEntry xs ys) :
      (xs.lookup name = none ∧ ys.lookup name = none) ∨
        ∃ x y, xs.lookup name = some x ∧ ys.lookup name = some y ∧ x.Alike y := by
    induction hxs with
    | nil => exact .inl ⟨rfl, rfl⟩
    | @cons x y xs ys hentry _ ih =>
      obtain ⟨hname, hvalue⟩ := hentry
      rw [List.lookup_cons, List.lookup_cons, hname]
      split
      · exact .inr ⟨x.2, y.2, rfl, rfl, hvalue⟩
      · exact ih
  exact hlookup h

theorem Alike.bool?_eq {a b : Settings} (h : a.Alike b) (name : String) :
    a.bool? name = b.bool? name := by
  unfold bool?
  rcases h.get?_cases name with ⟨ha, hb⟩ | ⟨x, y, ha, hb, hvalue⟩
  · rw [ha, hb]
  · rw [ha, hb, Option.bind_some, Option.bind_some, hvalue.bool?_eq]

theorem Alike.isTrue_eq {a b : Settings} (h : a.Alike b) (name : String) :
    a.isTrue name = b.isTrue name := by
  rw [isTrue, isTrue, h.bool?_eq]

theorem Alike.isFalse_eq {a b : Settings} (h : a.Alike b) (name : String) :
    a.isFalse name = b.isFalse name := by
  rw [isFalse, isFalse, h.bool?_eq]

theorem Alike.isTruthy_eq {a b : Settings} (h : a.Alike b) (name : String) :
    a.isTruthy name = b.isTruthy name := by
  unfold isTruthy
  rcases h.get?_cases name with ⟨ha, hb⟩ | ⟨x, y, ha, hb, hvalue⟩
  · rw [ha, hb]
  · rw [ha, hb, Option.any_some, Option.any_some, hvalue.truthy_eq]

theorem Alike.truthyText?_eq {a b : Settings} (h : a.Alike b) (name : String) :
    a.truthyText? name = b.truthyText? name := by
  unfold truthyText?
  rcases h.get?_cases name with ⟨ha, hb⟩ | ⟨x, y, ha, hb, hvalue⟩
  · rw [ha, hb]
  · simp only [ha, hb, Option.filter, hvalue.truthy_eq]
    split
    · rw [Option.map_some, Option.map_some, hvalue.display_eq]
    · rfl

theorem Alike.set {a b : Settings} (h : a.Alike b) (name : String) {x y : Setting}
    (hvalue : x.Alike y) : (a.set name x).Alike (b.set name y) := by
  have hwrite {xs ys : List (String × Setting)} (hxs : List.Forall₂ AlikeEntry xs ys) :
      List.Forall₂ AlikeEntry (write name x xs) (write name y ys) := by
    induction hxs with
    | nil => exact .cons ⟨rfl, hvalue⟩ .nil
    | @cons x' y' xs ys hentry htail ih =>
      rw [write, write, hentry.1]
      split
      · exact .cons ⟨rfl, hvalue⟩ htail
      · exact .cons hentry ih
  exact hwrite h

theorem Alike.setAll {a b : Settings} (h : a.Alike b) {xs ys : List (String × Setting)}
    (hxs : List.Forall₂ AlikeEntry xs ys) : (a.setAll xs).Alike (b.setAll ys) := by
  induction hxs generalizing a b with
  | nil => exact h
  | @cons x y xs ys hentry _ ih =>
    have hset : (a.set x.1 x.2).Alike (b.set y.1 y.2) := by
      rw [hentry.1]
      exact h.set y.1 hentry.2
    exact ih hset

theorem Alike.implyContainment {a b : Settings} (h : a.Alike b) :
    a.implyContainment.Alike b.implyContainment := by
  unfold Settings.implyContainment
  rw [h.isTrue_eq, h.isTrue_eq]
  split
  · split
    · exact h.set _ (.refl _)
    · exact h.set _ (.refl _)
  · exact h

theorem Alike.implyAnchors {a b : Settings} (h : a.Alike b) :
    a.implyAnchors.Alike b.implyAnchors := by
  unfold Settings.implyAnchors
  rw [h.isFalse_eq]
  split
  · exact (h.set _ (.refl _)).set _ (.refl _)
  · exact h

/-- Given options that are alike, where no options count as the empty record. -/
def AlikeGiven (a b : Option Settings) : Prop := (a.getD empty).Alike (b.getD empty)

/-- Alike options resolve to alike records. -/
theorem AlikeGiven.resolve {a b : Option Settings} (h : AlikeGiven a b) :
    (Settings.resolve a).settings.Alike (Settings.resolve b).settings := by
  have hcopy (given : Option Settings) :
      empty.merge given = empty.setAll (given.getD empty).entries := by
    cases given <;> rfl
  change ((empty.merge a).implyContainment.implyAnchors).Alike
    ((empty.merge b).implyContainment.implyAnchors)
  rw [hcopy, hcopy]
  exact ((Alike.refl empty).setAll h).implyContainment.implyAnchors

end Settings

end Patternwork
