import Patternwork.Proofs.Backtrack.Alternatives
import Patternwork.Proofs.Regular.Repeated

namespace Patternwork.Backtrack

open Attempt

variable {text : Haystack} {p q : Nat} {goals rest first later : List Goal} {good other : Prop}
  {moves next : Nat → Nat → Prop} {code : Code} {least : Nat} {greatest : Option Nat}

/-- At a position the goals are met or not as `good` says, whatever is kept and whatever choices are
    below. -/
def Decides (text : Haystack) (goals : List Goal) (p : Nat) (good : Prop) : Prop :=
  ∀ ⦃bound below slots resumed⦄, Ends text bound (onStack below goals p slots resumed) →
    good ∧ Wins text (onStack below goals p slots resumed) ∨
      ¬ good ∧ FallsBack text below (onStack below goals p slots resumed)

namespace Decides

theorem congr (hgoals : Decides text goals p good) (hiff : good ↔ other) :
    Decides text goals p other := by
  rwa [← propext hiff]

theorem of_steps (hrest : Decides text rest q good)
    (hsteps : ∀ below slots resumed, ∃ count others,
      Steps text count (onStack below goals p slots resumed)
        (onStack below rest q others resumed)) :
    Decides text goals p good := by
  intro bound below slots resumed hends
  obtain ⟨count, others, hsteps⟩ := hsteps below slots resumed
  obtain ⟨_, hleft, _⟩ := hends.after hsteps
  exact (hrest hleft).imp (And.imp_right hsteps.wins) (And.imp_right hsteps.fallsBack)

theorem of_fallsTo (hfalls : ∀ below slots resumed,
    FallsTo text below (onStack below goals p slots resumed)) : Decides text goals p False :=
  fun _ below slots resumed _ => .inr ⟨not_false, (hfalls below slots resumed).fallsBack⟩

/-- Of two possibilities the second is tried where the first one fails. -/
theorem choose (hfirst : Decides text first p good) (hlater : Decides text later p other)
    (hstep : ∀ below slots resumed, (onStack below goals p slots resumed).step text =
      (onStack below goals p slots resumed).choose first later) :
    Decides text goals p (good ∨ other) := by
  intro bound below slots resumed hends
  have hchosen := hends.steps_choose (hstep below slots resumed)
  obtain ⟨_, htried, _⟩ := hends.after hchosen
  rcases hfirst htried with ⟨hgood, hwins⟩ | ⟨hnot, hfalls⟩
  · exact .inl ⟨.inl hgood, hchosen.wins hwins⟩
  · obtain ⟨_, _, hresumes⟩ := hfalls.steps htried
    have hsecond := hchosen.trans hresumes
    obtain ⟨_, hleft, _⟩ := hends.after hsecond
    rcases hlater hleft with ⟨hother, hwins⟩ | ⟨hneither, hfalls⟩
    · exact .inl ⟨.inr hother, hsecond.wins hwins⟩
    · exact .inr ⟨not_or.mpr ⟨hnot, hneither⟩, hsecond.fallsBack hfalls⟩

theorem repeatOrLeave (greedy : Bool) (hmore : Decides text first p good)
    (hleave : Decides text later p other)
    (hstep : ∀ below slots resumed, (onStack below goals p slots resumed).step text =
      (onStack below goals p slots resumed).repeatOrLeave greedy first later) :
    Decides text goals p (good ∨ other) := by
  cases greedy with
  | true => exact hmore.choose hleave hstep
  | false => exact (hleave.choose hmore hstep).congr or_comm

end Decides

/-- A program that tries one after the other the positions to which it may move, until what comes
    after it matches from there. -/
def Code.Walks (text : Haystack) (code : Code) (moves : Nat → Nat → Prop) : Prop :=
  ∀ ⦃rest : List Goal⦄ ⦃good : Nat → Prop⦄ ⦃p : Nat⦄,
    (∀ q, moves p q → Decides text rest q (good q)) →
      Decides text (.run code :: rest) p (∃ q, moves p q ∧ good q)

/-- A position that is reached through others is reached step by step. -/
theorem exists_through_iff {good : Nat → Prop} :
    (∃ r, moves p r ∧ ∃ q, next r q ∧ good q) ↔ ∃ q, (∃ r, moves p r ∧ next r q) ∧ good q := by
  constructor
  · rintro ⟨r, hr, q, hq, hgood⟩
    exact ⟨q, ⟨r, hr, hq⟩, hgood⟩
  · rintro ⟨q, ⟨r, hr, hq⟩, hgood⟩
    exact ⟨r, hr, q, hq, hgood⟩

namespace Code.Walks

theorem congr (hcode : code.Walks text moves) (hiff : ∀ p q, moves p q ↔ next p q) :
    code.Walks text next := by
  have heq : moves = next := funext fun p => funext fun q => propext (hiff p q)
  rwa [← heq]

theorem pass (text : Haystack) : Code.pass.Walks text fun p q => q = p := by
  intro rest good p hrest
  have hdecides : Decides text (.run .pass :: rest) p (good p) :=
    (hrest p rfl).of_steps fun _ slots _ => ⟨1, slots, .single rfl⟩
  exact hdecides.congr (by simp)

theorem save (text : Haystack) (slot : Nat) : (Code.save slot).Walks text fun p q => q = p := by
  intro rest good p hrest
  have hdecides : Decides text (.run (.save slot) :: rest) p (good p) :=
    (hrest p rfl).of_steps fun _ _ _ => ⟨1, _, .single rfl⟩
  exact hdecides.congr (by simp)

/-- A program that takes the first of some positions, where there is one at most. -/
theorem any {node : Regular} (hone : ∀ p q r, node.Moves text p q → node.Moves text p r → q = r) :
    (Code.any node).Walks text (node.Moves text) := by
  intro rest good p hrest
  cases hreach : node.reach text [p] with
  | nil =>
    have hnone : (node.reach text [p]).head? = none := by rw [hreach]; rfl
    refine (Decides.of_fallsTo fun _ _ _ => fallsTo_any hnone).congr ?_
    simp [Regular.Moves, hreach]
  | cons q more =>
    have hsome : (node.reach text [p]).head? = some q := by rw [hreach]; rfl
    have hmoves : node.Moves text p q := List.mem_of_head? hsome
    refine ((hrest q hmoves).of_steps fun _ slots _ => ⟨1, slots, steps_any hsome⟩).congr ?_
    constructor
    · exact fun hgood => ⟨q, hmoves, hgood⟩
    · rintro ⟨r, hr, hgood⟩
      rwa [hone p q r hmoves hr]

theorem seq {a b : Code} (ha : a.Walks text moves) (hb : b.Walks text next) :
    (Code.seq a b).Walks text fun p q => ∃ r, moves p r ∧ next r q := by
  intro rest good p hrest
  have hboth : Decides text (.run a :: .run b :: rest) p
      (∃ r, moves p r ∧ ∃ q, next r q ∧ good q) :=
    ha fun r hr => hb fun q hq => hrest q ⟨r, hr, hq⟩
  exact (hboth.of_steps fun _ slots _ => ⟨1, slots, steps_seq a b⟩).congr exists_through_iff

theorem choice {a b : Code} (ha : a.Walks text moves) (hb : b.Walks text next) :
    (Code.choice a b).Walks text fun p q => moves p q ∨ next p q := by
  intro rest good p hrest
  have hfirst := ha fun q hq => hrest q (.inl hq)
  have hlater := hb fun q hq => hrest q (.inr hq)
  refine (hfirst.choose hlater fun _ _ _ => rfl).congr ?_
  simp only [or_and_right, exists_or]

theorem star (hcode : code.Walks text moves)
    (hforward : ∀ p q, moves p q → p < q ∧ q ≤ text.size) (greedy : Bool) :
    (Code.star greedy code).Walks text (Repeats moves 0 none) := by
  intro rest good p hrest
  induction hleft : text.size - p using Nat.strongRecOn generalizing p with
  | ind left ih =>
    subst hleft
    have hstep (p q : Nat) : Repeats moves 0 none p q ↔
        (∃ r, moves p r ∧ Repeats moves 0 none r q) ∨ q = p := by
      rw [Repeats.iff_step]
      simp
    have hmore : Decides text (.run code :: .run (.star greedy code) :: rest) p
        (∃ r, moves p r ∧ ∃ q, Repeats moves 0 none r q ∧ good q) := by
      refine hcode fun r hr => ?_
      obtain ⟨hlt, hle⟩ := hforward p r hr
      exact ih (text.size - r) (by omega)
        (fun q hq => hrest q ((hstep p q).mpr (.inl ⟨r, hr, hq⟩))) rfl
    have hleave := hrest p ((hstep p p).mpr (.inr rfl))
    refine (hmore.repeatOrLeave greedy hleave fun _ _ _ => rfl).congr ?_
    simp only [hstep p, or_and_right, exists_or, exists_eq_left, exists_through_iff]

/-- A counted repetition, after some repetitions. -/
theorem decides_counted (hcode : code.Walks text moves) (greedy : Bool)
    (hforward : greatest = none → ∀ p q, moves p q → p < q ∧ q ≤ text.size)
    (hbounds : ∀ most ∈ greatest, least ≤ most) {good : Nat → Prop} {done : Nat}
    (hdone : ∀ most ∈ greatest, done ≤ most)
    (hrest : ∀ q, Repeats moves (least - done) (greatest.map (· - done)) p q →
      Decides text rest q (good q))
    (hstep : ∀ below slots resumed, (onStack below goals p slots resumed).step text =
      (onStack below goals p slots resumed).counted least greatest greedy code done rest) :
    Decides text goals p
      (∃ q, Repeats moves (least - done) (greatest.map (· - done)) p q ∧ good q) := by
  induction hleft : greatest.elim (text.size - p) (· - done) using Nat.strongRecOn
    generalizing p done goals with
  | ind left ih =>
    subst hleft
    by_cases hlast : greatest = some done
    · subst hlast
      have hle : least ≤ done := hbounds done rfl
      have hone (q : Nat) :
          Repeats moves (least - done) ((some done).map (· - done)) p q ↔ q = p := by
        rw [Nat.sub_eq_zero_of_le hle, Option.map_some, Nat.sub_self]
        exact Repeats.zero_iff
      have hleave := hrest p ((hone p).mpr rfl)
      refine (hleave.of_steps fun below slots resumed => ⟨1, slots, .single ?_⟩).congr ?_
      · rw [hstep, Attempt.counted]
        exact if_pos rfl
      · simp only [hone, exists_eq_left]
    · have hnext (q : Nat) : Repeats moves (least - done) (greatest.map (· - done)) p q ↔ _ :=
        Repeats.iff_step_after hlast hdone
      have hlater : ∀ most ∈ greatest, done + 1 ≤ most := by
        intro most hmost
        have hle := hdone most hmost
        have hne : most ≠ done := fun heq => hlast (heq ▸ hmost)
        omega
      have hmore : Decides text
          (.run code :: .again least greatest greedy code (done + 1) :: rest) p
          (∃ r, moves p r ∧ ∃ q,
            Repeats moves (least - (done + 1)) (greatest.map (· - (done + 1))) r q ∧ good q) := by
        refine hcode fun r hr => ih _ ?_ hlater
          (fun q hq => hrest q ((hnext q).mpr (.inl ⟨r, hr, hq⟩))) (fun _ _ _ => rfl) rfl
        cases greatest with
        | none =>
          have hlt := hforward rfl p r hr
          simp only [Option.elim]
          omega
        | some most =>
          have hle := hlater most rfl
          simp only [Option.elim]
          omega
      simp only [hnext, or_and_right, exists_or, ← exists_through_iff]
      by_cases hleast : least ≤ done
      · have hleave := hrest p ((hnext p).mpr (.inr ⟨hleast, rfl⟩))
        refine (hmore.repeatOrLeave greedy hleave fun below slots resumed => ?_).congr ?_
        · rw [hstep, Attempt.counted]
          exact (if_neg hlast).trans (if_pos hleast)
        · simp [hleast]
      · refine (hmore.of_steps fun below slots resumed => ⟨1, slots, .single ?_⟩).congr ?_
        · rw [hstep, Attempt.counted]
          exact (if_neg hlast).trans (if_neg hleast)
        · simp [hleast]

theorem counted (hcode : code.Walks text moves) (greedy : Bool)
    (hforward : greatest = none → ∀ p q, moves p q → p < q ∧ q ≤ text.size)
    (hbounds : ∀ most ∈ greatest, least ≤ most) :
    (Code.counted least greatest greedy code).Walks text (Repeats moves least greatest) := by
  intro rest good p hrest
  have hnone : greatest.map (· - 0) = greatest := Option.map_id'
  have hstep (below : List Choice) (slots : Array (Option Nat)) (resumed : Nat) :
      (onStack below (.run (.counted least greatest greedy code) :: rest) p slots resumed).step
          text =
        (onStack below (.run (.counted least greatest greedy code) :: rest) p slots
          resumed).counted least greatest greedy code 0 rest := rfl
  have hnow (q : Nat) : Repeats moves (least - 0) (greatest.map (· - 0)) p q ↔
      Repeats moves least greatest p q := by
    rw [Nat.sub_zero, hnone]
  refine (hcode.decides_counted greedy hforward hbounds (fun _ _ => Nat.zero_le _)
    (fun q hq => hrest q ((hnow q).mp hq)) hstep).congr ?_
  simp only [hnow]

/-- A repetition tries all positions that repeated moves lead to. One without an upper bound must
    not be of something that can match nothing. -/
theorem repetition (hcode : code.Walks text moves) (greedy : Bool) {nullable : Bool}
    (hforward : greatest = none →
      nullable = false ∧ ∀ p q, moves p q → p < q ∧ q ≤ text.size)
    (hbounds : ∀ most ∈ greatest, least ≤ most) (slot : Nat) :
    (Backtrack.repetition least greatest greedy nullable slot code).Walks text
      (Repeats moves least greatest) := by
  unfold Backtrack.repetition
  split
  next =>
    have hone (p q : Nat) : Repeats moves 0 (some 1) p q ↔ moves p q ∨ q = p := by
      rw [Repeats.iff_step]
      simp [Repeats.zero_iff]
    split
    · exact (hcode.choice (.pass text)).congr fun p q => (hone p q).symm
    · exact ((pass text).choice hcode).congr fun p q => or_comm.trans (hone p q).symm
  next =>
    obtain ⟨rfl, hgoes⟩ := hforward rfl
    rw [if_neg Bool.false_ne_true]
    split
    · exact hcode.star hgoes greedy
    · have hone (p q : Nat) : Repeats moves 1 none p q ↔
          ∃ r, moves p r ∧ Repeats moves 0 none r q := by
        rw [Repeats.iff_step]
        simp
      exact (hcode.seq (hcode.star hgoes greedy)).congr fun p q => (hone p q).symm
    · exact hcode.counted greedy (fun _ => hgoes) hbounds
  next => exact hcode.counted greedy (fun hnone => (hforward hnone).2) hbounds

end Code.Walks

end Patternwork.Backtrack
