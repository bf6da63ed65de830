import Patternwork.Proofs.Regular.Words

namespace Patternwork

/-- A number of moves, one after the other. -/
inductive Iterated (moves : Nat → Nat → Prop) : Nat → Nat → Nat → Prop
  | refl (p : Nat) : Iterated moves 0 p p
  | cons {n p q r : Nat} (hfirst : moves p q) (hrest : Iterated moves n q r) :
      Iterated moves (n + 1) p r

namespace Iterated

variable {moves : Nat → Nat → Prop} {n m p q r : Nat}

theorem trans (hfirst : Iterated moves n p q) (hsecond : Iterated moves m q r) :
    Iterated moves (n + m) p r := by
  induction hfirst with
  | refl => rwa [Nat.zero_add]
  | @cons n _ _ _ hmove _ ih =>
    rw [Nat.add_right_comm]
    exact .cons hmove (ih hsecond)

theorem exists_of_add (hiterated : Iterated moves (n + m) p r) :
    ∃ q, Iterated moves n p q ∧ Iterated moves m q r := by
  induction n generalizing p with
  | zero => exact ⟨p, .refl p, by rwa [Nat.zero_add] at hiterated⟩
  | succ n ih =>
    rw [Nat.add_right_comm] at hiterated
    cases hiterated with
    | cons hfirst hrest =>
      obtain ⟨q, hq, hr⟩ := ih hrest
      exact ⟨q, .cons hfirst hq, hr⟩

/-- Moves that stay where they are may be left out. -/
theorem exists_le {size : Nat} (hforward : ∀ {p q}, moves p q → p ≤ q ∧ q ≤ max p size)
    (hiterated : Iterated moves n p q) :
    p ≤ q ∧ q ≤ max p size ∧ ∃ m ≤ n, m ≤ q - p ∧ Iterated moves m p q := by
  induction hiterated with
  | refl p =>
    exact ⟨Nat.le_refl p, Nat.le_max_left p size, 0, Nat.le_refl 0, Nat.zero_le _, .refl p⟩
  | @cons n p q r hfirst _ ih =>
    obtain ⟨hle, hmost, m, hm, hless, hrest⟩ := ih
    obtain ⟨hfirstLe, hfirstMost⟩ := hforward hfirst
    refine ⟨Nat.le_trans hfirstLe hle, by omega, ?_⟩
    rcases Nat.eq_or_lt_of_le hfirstLe with rfl | hlt
    · exact ⟨m, Nat.le_succ_of_le hm, hless, hrest⟩
    · exact ⟨m + 1, Nat.succ_le_succ hm, by omega, .cons hfirst hrest⟩

theorem of_stay (hstay : moves p p) (n : Nat) : Iterated moves n p p := by
  induction n with
  | zero => exact .refl p
  | succ n ih => exact .cons hstay ih

theorem eq_of_stays (hstays : ∀ p q, moves p q → q = p) (hiterated : Iterated moves n p q) :
    q = p := by
  induction hiterated with
  | refl => rfl
  | cons hfirst _ ih => exact ih.trans (hstays _ _ hfirst)

theorem add_mul_le {size : Nat} (hle : ∀ {p q}, moves p q → p + size ≤ q)
    (hiterated : Iterated moves n p q) : p + size * n ≤ q := by
  induction hiterated with
  | refl => exact Nat.le_refl _
  | cons hfirst _ ih =>
    have hstep := hle hfirst
    rw [Nat.mul_succ]
    omega

theorem eq_add_mul {size : Nat} (heq : ∀ {p q}, moves p q → q = p + size)
    (hiterated : Iterated moves n p q) : q = p + size * n := by
  induction hiterated with
  | refl => rfl
  | cons hfirst _ ih =>
    have hstep := heq hfirst
    rw [Nat.mul_succ]
    omega

end Iterated

/-- As many moves as a repetition allows. -/
def Repeats (moves : Nat → Nat → Prop) (least : Nat) (greatest : Option Nat) (p q : Nat) : Prop :=
  ∃ n, least ≤ n ∧ (∀ most ∈ greatest, n ≤ most) ∧ Iterated moves n p q

namespace Repeats

variable {moves : Nat → Nat → Prop} {least p q : Nat} {greatest : Option Nat}

theorem zero_iff : Repeats moves 0 (some 0) p q ↔ q = p := by
  constructor
  · rintro ⟨n, _, hmost, hiterated⟩
    obtain rfl := Nat.le_zero.mp (hmost 0 rfl)
    cases hiterated
    rfl
  · rintro rfl
    exact ⟨0, Nat.le_refl 0, fun _ _ => Nat.zero_le _, .refl q⟩

theorem one_iff : Repeats moves 1 (some 1) p q ↔ moves p q := by
  constructor
  · rintro ⟨n, hleast, hmost, hiterated⟩
    obtain rfl := Nat.le_antisymm (hmost 1 rfl) hleast
    obtain _ | ⟨hmove, ⟨⟩⟩ := hiterated
    exact hmove
  · intro hmove
    exact ⟨1, Nat.le_refl 1, by simp, .cons hmove (.refl q)⟩

/-- A repetition is left, or it goes on with one that allows a move less. -/
theorem iff_step : Repeats moves least greatest p q ↔
    (∃ r, moves p r ∧ greatest ≠ some 0 ∧
      Repeats moves (least - 1) (greatest.map (· - 1)) r q) ∨ least = 0 ∧ q = p := by
  constructor
  · rintro ⟨n, hleast, hmost, hiterated⟩
    cases hiterated with
    | refl => exact .inr ⟨Nat.le_zero.mp hleast, rfl⟩
    | @cons n _ r _ hfirst hrest =>
      refine .inl ⟨r, hfirst, ?_, n, by omega, ?_, hrest⟩
      · rintro rfl
        exact absurd (hmost 0 rfl) (Nat.not_succ_le_zero n)
      · intro less hless
        obtain ⟨most, hsome, rfl⟩ := Option.map_eq_some_iff.mp hless
        exact Nat.le_sub_one_of_lt (hmost most hsome)
  · rintro (⟨r, hfirst, hne, n, hleast, hmost, hrest⟩ | ⟨rfl, rfl⟩)
    · refine ⟨n + 1, by omega, fun most hsome => ?_, .cons hfirst hrest⟩
      have hless := hmost (most - 1) (Option.map_eq_some_iff.mpr ⟨most, hsome, rfl⟩)
      have hpos : most ≠ 0 := fun hzero => hne (hzero ▸ hsome)
      omega
    · exact ⟨0, Nat.le_refl 0, fun _ _ => Nat.zero_le _, .refl q⟩

/-- The same for what is left of a repetition after some moves. -/
theorem iff_step_after {done : Nat} (hlast : greatest ≠ some done)
    (hdone : ∀ most ∈ greatest, done ≤ most) :
    Repeats moves (least - done) (greatest.map (· - done)) p q ↔
      (∃ r, moves p r ∧ Repeats moves (least - (done + 1)) (greatest.map (· - (done + 1))) r q) ∨
        least ≤ done ∧ q = p := by
  have hgoes : greatest.map (· - done) ≠ some 0 := by
    intro hnone
    obtain ⟨most, rfl, hzero⟩ := Option.map_eq_some_iff.mp hnone
    have hle := hdone most rfl
    exact hlast (congrArg some (by omega))
  have hfewer : (greatest.map (· - done)).map (· - 1) = greatest.map (· - (done + 1)) := by
    rw [Option.map_map]
    congr 1
  rw [iff_step, Nat.sub_sub, hfewer, Nat.sub_eq_zero_iff_le]
  simp only [ne_eq, hgoes, not_false_eq_true, true_and]

/-- Where moves stay where they are, it does not matter how many there are, if there is one. -/
theorem iff_of_stays (hbounds : ∀ most ∈ greatest, least ≤ most) (hpos : 0 < least)
    (hstays : ∀ p q, moves p q → q = p) : Repeats moves least greatest p q ↔ moves p q := by
  constructor
  · rintro ⟨n, hleast, _, hiterated⟩
    obtain rfl := hiterated.eq_of_stays hstays
    obtain _ | ⟨hmove, _⟩ := hiterated
    · omega
    · rwa [hstays _ _ hmove] at hmove
  · intro hmove
    obtain rfl := hstays _ _ hmove
    exact ⟨least, Nat.le_refl least, hbounds, .of_stay hmove least⟩

end Repeats

namespace Regular

open Positions

variable {text : Haystack} {a : Regular} {step : List Nat → List Nat} {least n p q : Nat}
  {greatest : Option Nat} {greedy : Bool}

/-- From one position to another that the expression reaches from it. -/
def Moves (text : Haystack) (a : Regular) (p q : Nat) : Prop := q ∈ a.reach text [p]

theorem mem_times (hstep : Additive step) :
    q ∈ times step n [p] ↔ Iterated (fun p q => q ∈ step [p]) n p q := by
  induction n generalizing p with
  | zero =>
    constructor
    · intro hq
      obtain rfl := List.mem_singleton.mp hq
      exact .refl q
    · rintro ⟨⟩
      exact List.mem_singleton_self _
  | succ n ih =>
    rw [times_succ hstep, (hstep.times n).mem_iff (hstep.descending (descending_singleton p))]
    constructor
    · rintro ⟨r, hr, hq⟩
      exact .cons hr (ih.mp hq)
    · rintro (_ | ⟨hr, hq⟩)
      exact ⟨_, hr, ih.mpr hq⟩

theorem within_iff : Within step n p q ↔ ∃ m ≤ n, Iterated (fun p q => q ∈ step [p]) m p q := by
  constructor
  · intro hwithin
    induction hwithin with
    | refl n p => exact ⟨0, Nat.zero_le n, .refl p⟩
    | cons hfirst _ ih =>
      obtain ⟨m, hm, hrest⟩ := ih
      exact ⟨m + 1, Nat.succ_le_succ hm, .cons hfirst hrest⟩
  · rintro ⟨m, hm, hiterated⟩
    refine Within.mono ?_ hm
    clear hm
    induction hiterated with
    | refl p => exact .refl 0 p
    | cons hfirst _ ih => exact .cons hfirst ih

theorem moves_rep_iff : (rep least greatest greedy a).Moves text p q ↔
    ∃ n ≤ rounds text.size least greatest, Iterated (a.Moves text) (least + n) p q := by
  have hstep := additive_reach text a
  have hspread {starts : List Nat} (hstarts : Descending starts) :
      q ∈ spread (a.reach text) (rounds text.size least greatest) starts starts ↔
        ∃ r ∈ starts, Within (a.reach text) (rounds text.size least greatest) r q := by
    rw [mem_spread hstep hstarts hstarts (fun _ => id) fun p hp hnot => absurd hp hnot]
    exact or_iff_right_of_imp fun hq => ⟨q, hq, .refl _ q⟩
  have hreach : (rep least greatest greedy a).reach text [p] =
      spread (a.reach text) (rounds text.size least greatest) (times (a.reach text) least [p])
        (times (a.reach text) least [p]) := by
    rw [reach]
    split
    next hnone =>
      rw [hnone]
      exact ((hstep.spread _).nil).symm
    next => rfl
  rw [Moves, hreach, hspread ((hstep.times least).descending (descending_singleton p))]
  constructor
  · rintro ⟨r, hr, hq⟩
    obtain ⟨n, hn, hq⟩ := within_iff.mp hq
    exact ⟨n, hn, ((mem_times hstep).mp hr).trans hq⟩
  · rintro ⟨n, hn, hiterated⟩
    obtain ⟨r, hr, hq⟩ := hiterated.exists_of_add
    exact ⟨r, (mem_times hstep).mpr hr, within_iff.mpr ⟨n, hn, hq⟩⟩

theorem moves_set {members : CharClass} (hmoves : (set members).Moves text p q) :
    q = p + 1 ∧ p < text.size := by
  obtain ⟨r, hr, hfound⟩ := List.mem_filterMap.mp hmoves
  obtain rfl := List.mem_singleton.mp hr
  obtain ⟨c, hc, hfound⟩ := Option.bind_eq_some_iff.mp hfound
  obtain ⟨_, hfound⟩ := Option.ite_none_right_eq_some.mp hfound
  exact ⟨(Option.some.inj hfound).symm, (Array.getElem?_eq_some_iff.mp hc).1⟩

theorem moves_look {condition : Look} (hmoves : (look condition).Moves text p q) : q = p :=
  List.mem_singleton.mp (List.mem_filter.mp hmoves).1

/-- Matches go forward, and not beyond the end of the text. -/
theorem Moves.le (hmoves : a.Moves text p q) : p ≤ q ∧ q ≤ max p text.size := by
  induction a generalizing p q with
  | empty =>
    obtain rfl := List.mem_singleton.mp hmoves
    omega
  | set members =>
    have hset := moves_set hmoves
    omega
  | look condition =>
    obtain rfl := moves_look hmoves
    omega
  | seq a b iha ihb =>
    obtain ⟨r, hr, hq⟩ := (mem_reach_iff
      ((additive_reach text a).descending (descending_singleton p))).mp hmoves
    have hfirst := iha hr
    have hsecond := ihb hq
    omega
  | alt a b iha ihb => exact (mem_union.mp hmoves).elim iha ihb
  | rep least greatest greedy a ih =>
    obtain ⟨n, _, hiterated⟩ := moves_rep_iff.mp hmoves
    clear hmoves
    generalize least + n = count at hiterated
    induction hiterated with
    | refl => omega
    | cons hfirst _ ihrest =>
      have hle := ih hfirst
      omega
  | capture a ih => exact ih hmoves

theorem moves_rep_iff_repeats (hbounds : ∀ most ∈ greatest, least ≤ most) :
    (rep least greatest greedy a).Moves text p q ↔ Repeats (a.Moves text) least greatest p q := by
  rw [moves_rep_iff]
  constructor
  · rintro ⟨n, hn, hiterated⟩
    refine ⟨least + n, Nat.le_add_right least n, ?_, hiterated⟩
    rintro most rfl
    have hle := hbounds most rfl
    simp only [rounds] at hn
    omega
  · rintro ⟨n, hleast, hmost, hiterated⟩
    obtain ⟨more, rfl⟩ := Nat.exists_eq_add_of_le hleast
    obtain ⟨r, hfirst, hsecond⟩ := hiterated.exists_of_add
    obtain ⟨_, hle, m, hm, hless, hrest⟩ := hsecond.exists_le Moves.le
    refine ⟨m, ?_, hfirst.trans hrest⟩
    cases greatest with
    | none =>
      simp only [rounds]
      omega
    | some most =>
      have hmost := hmost most rfl
      simp only [rounds]
      omega

/-- A repetition reaches what repeated matches reach, however it is written down. -/
theorem moves_repeated_iff (hbounds : ∀ most ∈ greatest, least ≤ most)
    (hstays : a.isEmptyOnly = true → ∀ p q, a.Moves text p q → q = p) :
    (repeated least greatest greedy a).Moves text p q ↔
      Repeats (a.Moves text) least greatest p q := by
  unfold repeated
  split
  next hempty =>
    have hstays := hstays hempty
    split
    next =>
      obtain rfl := Nat.le_zero.mp (hbounds 0 rfl)
      exact List.mem_singleton.trans Repeats.zero_iff.symm
    next hsome =>
      split
      next hleast =>
        subst hleast
        rw [moves_rep_iff_repeats (by simp)]
        constructor
        · rintro ⟨n, hn, hmost, hiterated⟩
          refine ⟨n, hn, ?_, hiterated⟩
          rintro most rfl
          have hle := hmost 1 rfl
          have hne : most ≠ 0 := by simpa using hsome
          omega
        · rintro ⟨n, _, _, hiterated⟩
          obtain rfl := hiterated.eq_of_stays hstays
          exact ⟨0, Nat.le_refl 0, fun _ _ => Nat.zero_le _, .refl _⟩
      next hleast => exact (Repeats.iff_of_stays hbounds (Nat.pos_of_ne_zero hleast) hstays).symm
  next =>
    split
    next => exact List.mem_singleton.trans Repeats.zero_iff.symm
    next => exact Repeats.one_iff.symm
    next => exact moves_rep_iff_repeats hbounds

end Regular

end Patternwork
