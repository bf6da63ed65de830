import Mathlib.Data.List.Basic
import Patternwork.Regular.Reach

namespace Patternwork

namespace Positions

/-- Strictly descending lists. -/
abbrev Descending (positions : List Nat) : Prop := positions.Pairwise (· > ·)

variable {as bs merged kept : List Nat} {p q : Nat}

theorem mem_mergeOnto (merged as bs : List Nat) :
    q ∈ mergeOnto merged as bs ↔ q ∈ merged ∨ q ∈ as ∨ q ∈ bs := by
  fun_induction mergeOnto merged as bs
  case case1 => simp [List.reverseAux_eq]
  case case2 => simp [List.reverseAux_eq]
  case case3 ih | case4 ih =>
    rw [ih]
    simp only [List.mem_cons]
    tauto
  case case5 a as b bs hlt hgt ih =>
    obtain rfl : a = b := by omega
    rw [ih]
    simp only [List.mem_cons]
    tauto

theorem mem_union : q ∈ union as bs ↔ q ∈ as ∨ q ∈ bs := by
  unfold union
  split
  · simp
  · simp
  · simp [mem_mergeOnto]

/-- Merging keeps the order if all that has been passed lies above. -/
theorem descending_mergeOnto (hmerged : merged.Pairwise (· < ·)) (has : Descending as)
    (hbs : Descending bs) (ha : ∀ p ∈ merged, ∀ q ∈ as, q < p) (hb : ∀ p ∈ merged, ∀ q ∈ bs, q < p) :
    Descending (mergeOnto merged as bs) := by
  fun_induction mergeOnto merged as bs
  case case1 merged bs =>
    rw [List.reverseAux_eq, Descending, List.pairwise_append, List.pairwise_reverse]
    exact ⟨hmerged, hbs, fun p hp q hq => hb p (List.mem_reverse.mp hp) q hq⟩
  case case2 merged as _ =>
    rw [List.reverseAux_eq, Descending, List.pairwise_append, List.pairwise_reverse]
    exact ⟨hmerged, has, fun p hp q hq => ha p (List.mem_reverse.mp hp) q hq⟩
  case case3 ih =>
    simp only [Descending, List.pairwise_cons, List.mem_cons, forall_eq_or_imp] at *
    grind
  case case4 ih =>
    simp only [Descending, List.pairwise_cons, List.mem_cons, forall_eq_or_imp] at *
    grind
  case case5 ih =>
    simp only [Descending, List.pairwise_cons, List.mem_cons, forall_eq_or_imp] at *
    grind

theorem descending_union (has : Descending as) (hbs : Descending bs) :
    Descending (union as bs) := by
  unfold union
  split
  · exact hbs
  · exact has
  · exact descending_mergeOnto .nil has hbs (by simp) (by simp)

theorem mem_newOnto (has : Descending as) (hbs : Descending bs) :
    q ∈ newOnto kept as bs ↔ q ∈ kept ∨ q ∈ as ∧ q ∉ bs := by
  fun_induction newOnto kept as bs
  case case1 => simp
  case case2 => simp [List.reverseAux_eq]
  case case3 ih =>
    simp only [Descending, List.pairwise_cons, List.mem_cons] at *
    grind
  case case4 ih =>
    simp only [Descending, List.pairwise_cons, List.mem_cons] at *
    grind
  case case5 ih =>
    simp only [Descending, List.pairwise_cons, List.mem_cons] at *
    grind

theorem mem_fresh (has : Descending as) (hbs : Descending bs) :
    q ∈ fresh as bs ↔ q ∈ as ∧ q ∉ bs := by
  simp [fresh, mem_newOnto has hbs]

theorem descending_newOnto (hkept : kept.Pairwise (· < ·)) (has : Descending as)
    (ha : ∀ p ∈ kept, ∀ q ∈ as, q < p) : Descending (newOnto kept as bs) := by
  fun_induction newOnto kept as bs
  case case1 => simpa [Descending, List.pairwise_reverse] using hkept
  case case2 =>
    rw [List.reverseAux_eq, Descending, List.pairwise_append, List.pairwise_reverse]
    exact ⟨hkept, has, fun p hp q hq => ha p (List.mem_reverse.mp hp) q hq⟩
  case case3 ih =>
    simp only [Descending, List.pairwise_cons, List.mem_cons, forall_eq_or_imp] at *
    grind
  case case4 ih =>
    simp only [Descending, List.pairwise_cons, List.mem_cons, forall_eq_or_imp] at *
    grind
  case case5 ih =>
    simp only [Descending, List.pairwise_cons, List.mem_cons, forall_eq_or_imp] at *
    grind

theorem descending_fresh (has : Descending as) (bs : List Nat) : Descending (fresh as bs) :=
  descending_newOnto .nil has (by simp)

theorem mem_upTo {size : Nat} : p ∈ upTo size ↔ p ≤ size := by
  rw [upTo, List.mem_reverse, List.mem_range, Nat.lt_succ_iff]

theorem descending_upTo (size : Nat) : Descending (upTo size) := by
  simpa [upTo, Descending, List.pairwise_reverse] using List.pairwise_lt_range

end Positions

namespace Regular

open Positions

/-- A step whose result is put together from the results of the single positions. -/
structure Additive (step : List Nat → List Nat) : Prop where
  descending : ∀ {starts}, Descending starts → Descending (step starts)
  mem_iff : ∀ {starts q}, Descending starts → (q ∈ step starts ↔ ∃ p ∈ starts, q ∈ step [p])

variable {step next : List Nat → List Nat} {starts reached latest : List Nat} {n p q : Nat}

theorem descending_singleton (p : Nat) : Descending [p] := List.pairwise_singleton _ p

theorem Additive.nil (hstep : Additive step) : step [] = [] :=
  List.eq_nil_iff_forall_not_mem.mpr fun q hq => by
    simpa using (hstep.mem_iff List.Pairwise.nil).mp hq

theorem Additive.comp (hnext : Additive next) (hstep : Additive step) :
    Additive fun starts => next (step starts) where
  descending hstarts := hnext.descending (hstep.descending hstarts)
  mem_iff {starts q} hstarts := by
    rw [hnext.mem_iff (hstep.descending hstarts)]
    constructor
    · rintro ⟨r, hr, hq⟩
      obtain ⟨p, hp, hr⟩ := (hstep.mem_iff hstarts).mp hr
      exact ⟨p, hp, (hnext.mem_iff (hstep.descending (descending_singleton p))).mpr ⟨r, hr, hq⟩⟩
    · rintro ⟨p, hp, hq⟩
      obtain ⟨r, hr, hq⟩ :=
        (hnext.mem_iff (hstep.descending (descending_singleton p))).mp hq
      exact ⟨r, (hstep.mem_iff hstarts).mpr ⟨p, hp, hr⟩, hq⟩

theorem Additive.union (hstep : Additive step) (hnext : Additive next) :
    Additive fun starts => Positions.union (step starts) (next starts) where
  descending hstarts := descending_union (hstep.descending hstarts) (hnext.descending hstarts)
  mem_iff {starts q} hstarts := by
    simp only [mem_union, hstep.mem_iff hstarts, hnext.mem_iff hstarts]
    constructor
    · rintro (⟨p, hp, hq⟩ | ⟨p, hp, hq⟩)
      · exact ⟨p, hp, .inl hq⟩
      · exact ⟨p, hp, .inr hq⟩
    · rintro ⟨p, hp, hq | hq⟩
      · exact .inl ⟨p, hp, hq⟩
      · exact .inr ⟨p, hp, hq⟩

theorem times_succ (hstep : Additive step) (n : Nat) (starts : List Nat) :
    times step (n + 1) starts = times step n (step starts) := by
  cases starts with
  | cons => rfl
  | nil =>
    rw [hstep.nil]
    cases n <;> rfl

theorem Additive.times (hstep : Additive step) (n : Nat) : Additive (times step n) := by
  induction n with
  | zero => exact ⟨id, by simp [Regular.times]⟩
  | succ n ih =>
    have heq : Regular.times step (n + 1) = fun starts => Regular.times step n (step starts) :=
      funext (times_succ hstep n)
    rw [heq]
    exact ih.comp hstep

/-- A position is reached from another within a number of steps. -/
inductive Within (step : List Nat → List Nat) : Nat → Nat → Nat → Prop
  | refl (n p : Nat) : Within step n p p
  | cons {n p q r : Nat} (hfirst : q ∈ step [p]) (hrest : Within step n q r) :
      Within step (n + 1) p r

theorem Within.mono {m : Nat} (hwithin : Within step n p q) (hle : n ≤ m) :
    Within step m p q := by
  induction hwithin generalizing m with
  | refl => exact .refl _ _
  | cons hfirst _ ih =>
    obtain ⟨m, rfl⟩ : ∃ more, m = more + 1 := ⟨m - 1, by omega⟩
    exact .cons hfirst (ih (by omega))

/-- A walk from a position of a set that is left only through new positions ends in the set,
    or goes on from a new position after at least one step. -/
theorem Within.mem_or (hleave : ∀ p ∈ reached, ∀ q ∈ step [p], q ∈ reached ∨ q ∈ latest)
    (hwithin : Within step n p q) (hp : p ∈ reached) :
    q ∈ reached ∨ ∃ r ∈ latest, Within step (n - 1) r q := by
  induction hwithin with
  | refl => exact .inl hp
  | @cons n p q r hfirst hrest ih =>
    rcases hleave p hp q hfirst with hq | hq
    · rcases ih hq with hr | ⟨s, hs, hwithin⟩
      · exact .inl hr
      · exact .inr ⟨s, hs, hwithin.mono (by omega)⟩
    · exact .inr ⟨q, hq, hrest⟩

/-- Spreading from the latest positions reaches what is within the number of rounds, if the
    positions before them have been left. -/
theorem mem_spread (hstep : Additive step) (hreached : Descending reached)
    (hlatest : Descending latest) (hsubset : ∀ p ∈ latest, p ∈ reached)
    (hleft : ∀ p ∈ reached, p ∉ latest → ∀ q ∈ step [p], q ∈ reached) :
    q ∈ spread step n reached latest ↔ q ∈ reached ∨ ∃ p ∈ latest, Within step n p q := by
  induction n generalizing reached latest with
  | zero =>
    refine ⟨.inl, ?_⟩
    rintro (hq | ⟨p, hp, ⟨⟩⟩)
    · exact hq
    · exact hsubset _ hp
  | succ n ih =>
    have hfresh {r : Nat} : r ∈ fresh (step latest) reached ↔
        (∃ p ∈ latest, r ∈ step [p]) ∧ r ∉ reached := by
      rw [mem_fresh (hstep.descending hlatest) hreached, hstep.mem_iff hlatest]
    have hleave : ∀ p ∈ reached, ∀ r ∈ step [p],
        r ∈ reached ∨ r ∈ fresh (step latest) reached := by
      intro p hp r hr
      by_cases hold : r ∈ reached
      · exact .inl hold
      · by_cases hlate : p ∈ latest
        · exact .inr (hfresh.mpr ⟨⟨p, hlate, hr⟩, hold⟩)
        · exact .inl (hleft p hp hlate r hr)
    have hwalk (hq : q ∈ reached ∨ ∃ p ∈ latest, Within step (n + 1) p q) :
        q ∈ reached ∨ ∃ r ∈ fresh (step latest) reached, Within step n r q := by
      rcases hq with hq | ⟨p, hp, hwithin⟩
      · exact .inl hq
      · exact hwithin.mem_or hleave (hsubset p hp)
    rw [spread]
    split
    next hnone =>
      refine ⟨.inl, fun hq => ?_⟩
      simpa [hnone] using hwalk hq
    next new _ =>
      have hnew := descending_fresh (hstep.descending hlatest) reached
      rw [ih (descending_union hreached hnew) hnew (fun p hp => mem_union.mpr (.inr hp))]
      · constructor
        · rintro (hq | ⟨r, hr, hwithin⟩)
          · rcases mem_union.mp hq with hq | hq
            · exact .inl hq
            · obtain ⟨⟨p, hp, hq⟩, _⟩ := hfresh.mp hq
              exact .inr ⟨p, hp, .cons hq (.refl n q)⟩
          · obtain ⟨⟨p, hp, hr⟩, _⟩ := hfresh.mp hr
            exact .inr ⟨p, hp, .cons hr hwithin⟩
        · intro hq
          rcases hwalk hq with hq | hq
          · exact .inl (mem_union.mpr (.inl hq))
          · exact .inr hq
      · intro p hp hold r hr
        have hp : p ∈ reached := (mem_union.mp hp).resolve_right hold
        exact mem_union.mpr (hleave p hp r hr)

theorem descending_spread (hstep : Additive step) (hreached : Descending reached)
    (hlatest : Descending latest) : Descending (spread step n reached latest) := by
  induction n generalizing reached latest with
  | zero => exact hreached
  | succ n ih =>
    rw [spread]
    split
    · exact hreached
    · have hnew := descending_fresh (hstep.descending hlatest) reached
      exact ih (descending_union hreached hnew) hnew

theorem Additive.spread (hstep : Additive step) (n : Nat) :
    Additive fun starts => spread step n starts starts where
  descending hstarts := descending_spread hstep hstarts hstarts
  mem_iff {starts q} hstarts := by
    have hspread {positions : List Nat} (hpositions : Descending positions) :
        q ∈ Regular.spread step n positions positions ↔ ∃ p ∈ positions, Within step n p q := by
      rw [mem_spread hstep hpositions hpositions (fun _ => id) fun p hp hnot => absurd hp hnot]
      exact or_iff_right_of_imp fun hq => ⟨q, hq, .refl n q⟩
    simp [hspread hstarts, hspread (descending_singleton _)]

variable {text : Haystack} {a b : Regular}

/-- The positions reached from a set are those reached from its members. -/
theorem additive_reach (text : Haystack) (a : Regular) : Additive (a.reach text) := by
  induction a with
  | empty => exact ⟨id, by simp [reach]⟩
  | set members =>
    refine ⟨fun hstarts => ?_, by simp [reach]⟩
    rw [reach, Descending, List.pairwise_filterMap]
    refine hstarts.imp fun {p q} hlt r hr s hs => ?_
    grind
  | look condition => exact ⟨fun hstarts => hstarts.filter _, by simp [reach]⟩
  | seq a b iha ihb => exact ihb.comp iha
  | alt a b iha ihb => exact iha.union ihb
  | rep least greatest greedy a ih =>
    have heq : (rep least greatest greedy a).reach text = fun starts =>
        spread (a.reach text) (rounds text.size least greatest)
          (times (a.reach text) least starts) (times (a.reach text) least starts) := by
      funext starts
      rw [reach]
      split
      next hnone =>
        rw [hnone]
        exact ((ih.spread _).nil).symm
      next => rfl
    rw [heq]
    exact (ih.spread _).comp (ih.times least)
  | capture a ih => exact ih

/-- An expression matches in a text exactly when it matches at some position. -/
theorem isMatch_iff :
    a.isMatch text = true ↔ ∃ p ≤ text.size, a.reach text [p] ≠ [] := by
  have hadditive := additive_reach text a
  simp only [isMatch, Bool.not_eq_true', List.isEmpty_eq_false_iff_exists_mem]
  constructor
  · rintro ⟨q, hq⟩
    obtain ⟨p, hp, hq⟩ := (hadditive.mem_iff (descending_upTo _)).mp hq
    exact ⟨p, mem_upTo.mp hp, List.ne_nil_of_mem hq⟩
  · rintro ⟨p, hp, hq⟩
    obtain ⟨q, hq⟩ := List.exists_mem_of_ne_nil _ hq
    exact ⟨q, (hadditive.mem_iff (descending_upTo _)).mpr ⟨p, mem_upTo.mpr hp, hq⟩⟩

end Regular

end Patternwork
