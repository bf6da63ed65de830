import Patternwork.Proofs.Backtrack.Search

namespace Patternwork.Backtrack

namespace Attempt

variable {text : Haystack} {bound : Nat} {a : Attempt}

theorem Wins.not_fallsBack (hwins : Wins text a) : ¬ FallsBack text [] a := by
  rintro ⟨count, b, hsteps, hfalls⟩
  obtain ⟨more, c, hmore, hstop⟩ := hwins
  have hmatched : finish text (count + more + 1) a = .matched :=
    hmore.finish_eq_error hstop (by omega)
  have hunmatched : finish text (count + more + 1) a = .unmatched :=
    hsteps.finish_eq_error hfalls.step_eq (by omega)
  rw [hmatched] at hunmatched
  cases hunmatched

end Attempt

open Attempt

variable {text : Haystack} {count bound p resumed : Nat} {below : List Choice}
  {slots : Array (Option Nat)} {parts after codes : List Code}

/-- The goals that are left of a match, part after part, until its end is noted. -/
def onward (parts : List Code) : List Goal := parts.map .run ++ [.run (.save 1)]

/-- What is left of a match comes to its end, or fails, with whatever choices below. -/
theorem onward_cases (hslots : SlotsAlike count slots slots)
    (hparts : ∀ code ∈ parts, code.Within count)
    (hends : Ends text bound (onStack below (onward parts) p slots resumed)) :
    Wins text (onStack [] (onward parts) p slots 0) ∧
        Wins text (onStack below (onward parts) p slots resumed) ∨
      FallsBack text [] (onStack [] (onward parts) p slots 0) ∧
        FallsBack text below (onStack below (onward parts) p slots resumed) := by
  have hgoals : GoalsBeside count (.found below) (.found []) (onward parts) (onward parts) := by
    clear hends
    induction parts with
    | nil => exact .after
    | cons code parts ih =>
      obtain ⟨hcode, hrest⟩ := List.forall_mem_cons.mp hparts
      exact .cons (.run code) hcode (ih hrest)
  have hbeside : Beside count (.found below) (.found [])
      (onStack below (onward parts) p slots resumed) (onStack [] (onward parts) p slots 0) :=
    { aligned :=
        { p := rfl
          slots := hslots
          choices := ⟨[], [], rfl, rfl, .nil⟩
          height_left := rfl
          height_right := rfl
          resumed := Nat.zero_le resumed
          lower_le := Nat.zero_le _ }
      goals := hgoals }
  obtain ⟨steps, a, b, hsteps, hothers, hstop⟩ := hbeside.run hends
  rcases hstop with ⟨_, hgoals, hgoalsAlone⟩ | ⟨hfalls, hfallsAlone⟩
  · obtain ⟨_, hsave, hmatched⟩ := wins_of_save text hgoals
    obtain ⟨_, hsaveAlone, hmatchedAlone⟩ := wins_of_save text hgoalsAlone
    exact .inl ⟨hothers.wins ⟨1, _, hsaveAlone, hmatchedAlone⟩,
      hsteps.wins ⟨1, _, hsave, hmatched⟩⟩
  · exact .inr ⟨hothers.fallsBack hfallsAlone.fallsBack, hsteps.fallsBack hfalls.fallsBack⟩

/-- One of some alternatives alone comes to the end of the match, and so do they together; or all
    of them fail. -/
theorem choices_cases (hcodes : codes ≠ []) (hwithin : ∀ code ∈ codes, code.Within count)
    (hafter : ∀ code ∈ after, code.Within count) (hslots : SlotsAlike count slots slots)
    (hends : Ends text bound
      (onStack below (onward (.choices codes :: after)) p slots resumed)) :
    (∃ code ∈ codes, Wins text (onStack [] (onward (code :: after)) p slots 0)) ∧
        Wins text (onStack below (onward (.choices codes :: after)) p slots resumed) ∨
      (∀ code ∈ codes, FallsBack text [] (onStack [] (onward (code :: after)) p slots 0)) ∧
        FallsBack text below
          (onStack below (onward (.choices codes :: after)) p slots resumed) := by
  induction codes generalizing below bound resumed with
  | nil => exact absurd rfl hcodes
  | cons code rest ih =>
    obtain ⟨hcode, hrest⟩ := List.forall_mem_cons.mp hwithin
    have hparts : ∀ part ∈ code :: after, part.Within count :=
      List.forall_mem_cons.mpr ⟨hcode, hafter⟩
    cases rest with
    | nil =>
      rcases onward_cases hslots hparts hends with ⟨halone, hwins⟩ | ⟨halone, hfalls⟩
      · exact .inl ⟨⟨code, List.mem_singleton_self _, halone⟩, hwins⟩
      · exact .inr ⟨by simpa using halone, hfalls⟩
    | cons next rest =>
      -- The other alternatives are left for later, on top of the choices below.
      have hfirst : Steps text 1
          (onStack below (onward (.choices (code :: next :: rest) :: after)) p slots resumed)
          (onStack (⟨onward (.choices (next :: rest) :: after), p, slots⟩ :: below)
            (onward (code :: after)) p slots resumed) := hends.steps_choose rfl
      obtain ⟨_, htried, _⟩ := hends.after hfirst
      rcases onward_cases hslots hparts htried with ⟨halone, hwins⟩ | ⟨halone, hfalls⟩
      · exact .inl ⟨⟨code, List.mem_cons_self .., halone⟩, hfirst.wins hwins⟩
      · obtain ⟨_, _, hsteps⟩ := hfalls.steps htried
        have hlater := hfirst.trans hsteps
        obtain ⟨_, hleft, _⟩ := hends.after hlater
        rcases ih (List.cons_ne_nil next rest) hrest hleft with
          ⟨⟨other, hother, hwinsAlone⟩, hwins⟩ | ⟨hnone, hfalls⟩
        · exact .inl ⟨⟨other, List.mem_cons_of_mem _ hother, hwinsAlone⟩, hlater.wins hwins⟩
        · exact .inr ⟨List.forall_mem_cons.mpr ⟨halone, hnone⟩, hlater.fallsBack hfalls⟩

/-- A program between what is matched before and after it, if there is anything. -/
def Code.between (ends : Option (Code × Code)) (code : Code) : Code :=
  match ends with
  | none => code
  | some (start, stop) => .seq start (.seq code stop)

/-- A program that matches in one way at most. -/
inductive Code.Direct : Code → Prop
  | pass : Direct .pass
  | any (node : Regular) : Direct (.any node)

variable {ends : Option (Code × Code)}

/-- What comes after a program between others. -/
def Code.closing (ends : Option (Code × Code)) : List Code :=
  (ends.map Prod.snd).toList

/-- Before an attempt comes to what stands between, it does the same whatever that is. -/
theorem between_cases (hdirect : ∀ pair ∈ ends, pair.1.Direct) (text : Haystack) (p : Nat)
    (slots : Array (Option Nat)) :
    (∃ steps q, ∀ code : Code, Steps text steps (onStack [] (onward [code.between ends]) p slots 0)
        (onStack [] (onward (code :: Code.closing ends)) q slots 0)) ∨
      ∀ code : Code, FallsBack text [] (onStack [] (onward [code.between ends]) p slots 0) := by
  cases ends with
  | none => exact .inl ⟨0, p, fun code => .refl _⟩
  | some pair =>
    obtain ⟨start, stop⟩ := pair
    cases hdirect _ rfl with
    | pass => exact .inl ⟨3, p, fun code => .cons rfl (.cons rfl (.single rfl))⟩
    | any node =>
      cases hreach : (node.reach text [p]).head? with
      | none =>
        refine .inr fun code => ?_
        exact (steps_seq _ _).fallsBack (fallsTo_any hreach).fallsBack
      | some q =>
        refine .inl ⟨3, q, fun code => ?_⟩
        exact (steps_seq _ _).trans ((steps_any hreach).trans (steps_seq _ _))

theorem Code.within_of_choices (hwithin : (choices codes).Within count) :
    ∀ code ∈ codes, code.Within count := by
  induction codes with
  | nil => simp
  | cons code rest ih =>
    cases rest with
    | nil => exact List.forall_mem_singleton.mpr hwithin
    | cons next rest => exact List.forall_mem_cons.mpr ⟨hwithin.1, ih hwithin.2⟩

theorem Code.within_of_between {code : Code} (hwithin : (code.between ends).Within count) :
    code.Within count ∧ ∀ part ∈ Code.closing ends, part.Within count := by
  cases ends with
  | none => exact ⟨hwithin, by simp [Code.closing]⟩
  | some pair => exact ⟨hwithin.2.1, by simpa [Code.closing] using hwithin.2.2⟩

/-- An attempt with alternatives matches, and one of them alone goes on to match, or all of them
    fail. -/
theorem finish_choices_cases {total : Nat} (hdirect : ∀ pair ∈ ends, pair.1.Direct)
    (hcodes : codes ≠ []) (hwithin : ((Code.choices codes).between ends).Within count)
    (hopen : 0 < count) (hslots : count ≤ total)
    (hends : Ends text bound (((Code.choices codes).between ends).found.attempt total p)) :
    finish text bound (((Code.choices codes).between ends).found.attempt total p) = .matched ∧
        (∃ code ∈ codes, Wins text ((code.between ends).found.attempt total p)) ∨
      finish text bound (((Code.choices codes).between ends).found.attempt total p) =
          .unmatched ∧
        ∀ code ∈ codes, FallsBack text [] ((code.between ends).found.attempt total p) := by
  obtain ⟨hchoices, hafter⟩ := Code.within_of_between hwithin
  have halike := (slotsAlike_replicate hslots hslots).set Nat.zero_ne_one hopen p
  have hbegun (code : Code) : Steps text 3 (code.found.attempt total p)
      (onStack [] (onward [code]) p _ 0) := steps_found code
  rcases between_cases hdirect text p ((Array.replicate total none).setIfInBounds 0 (some p)) with
    ⟨steps, q, hsteps⟩ | hfalls
  · have hcomes (code : Code) := (hbegun (code.between ends)).trans (hsteps code)
    obtain ⟨_, hrest, _⟩ := hends.after (hcomes (.choices codes))
    rcases choices_cases hcodes (Code.within_of_choices hchoices) hafter halike hrest with
      ⟨⟨code, hcode, halone⟩, hwins⟩ | ⟨hnone, hfalls⟩
    · exact .inl ⟨((hcomes _).wins hwins).finish_eq hends, code, hcode, (hcomes code).wins halone⟩
    · exact .inr ⟨((hcomes _).fallsBack hfalls).finish_eq hends,
        fun code hcode => (hcomes code).fallsBack (hnone code hcode)⟩
  · exact .inr ⟨((hbegun _).fallsBack (hfalls _)).finish_eq hends,
      fun code _ => (hbegun _).fallsBack (hfalls code)⟩

/-- A search with alternatives finds a match, and the attempt with one of them matches at some
    position, or all attempts with all of them fail. -/
theorem search_choices_cases {total : Nat} (hdirect : ∀ pair ∈ ends, pair.1.Direct)
    (hcodes : codes ≠ []) (hwithin : ((Code.choices codes).between ends).Within count)
    (hopen : 0 < count) (hslots : count ≤ total)
    (hends : search (searching ((Code.choices codes).between ends)) total text ≠ .aborted) :
    search (searching ((Code.choices codes).between ends)) total text = .matched ∧
        (∃ p ≤ text.size, ∃ code ∈ codes,
          Wins text ((code.between ends).found.attempt total p)) ∨
      search (searching ((Code.choices codes).between ends)) total text = .unmatched ∧
        ∀ p ≤ text.size, ∀ code ∈ codes,
          FallsBack text [] ((code.between ends).found.attempt total p) := by
  have hattempt {p : Nat} {outcome : Outcome} (hlives : outcome ≠ .aborted)
      (hfinish : finish text stepLimit
        (((Code.choices codes).between ends).found.attempt total p) = outcome) :=
    finish_choices_cases hdirect hcodes hwithin hopen hslots
      (show Ends text stepLimit _ by rw [Ends, hfinish]; exact hlives)
  rcases search_cases hwithin hopen hslots hends with
    ⟨hsearch, p, hp, hmatched⟩ | ⟨hsearch, hnone⟩
  · refine .inl ⟨hsearch, p, hp, ?_⟩
    rcases hattempt Outcome.noConfusion hmatched with ⟨_, hwins⟩ | ⟨hunmatched, _⟩
    · exact hwins
    · cases hmatched.symm.trans hunmatched
  · refine .inr ⟨hsearch, fun p hp => ?_⟩
    have hunmatched := hnone p hp
    rcases hattempt Outcome.noConfusion hunmatched with ⟨hmatched, _⟩ | ⟨_, hfalls⟩
    · cases hunmatched.symm.trans hmatched
    · exact hfalls

/-- A search with alternatives finds a match exactly when the attempt with one of them does at some
    position. -/
theorem search_choices_iff {total : Nat} (hdirect : ∀ pair ∈ ends, pair.1.Direct)
    (hcodes : codes ≠ []) (hwithin : ((Code.choices codes).between ends).Within count)
    (hopen : 0 < count) (hslots : count ≤ total)
    (hends : search (searching ((Code.choices codes).between ends)) total text ≠ .aborted) :
    search (searching ((Code.choices codes).between ends)) total text = .matched ↔
      ∃ p ≤ text.size, ∃ code ∈ codes, Wins text ((code.between ends).found.attempt total p) := by
  rcases search_choices_cases hdirect hcodes hwithin hopen hslots hends with
    ⟨hsearch, hwins⟩ | ⟨hsearch, hfalls⟩
  · exact iff_of_true hsearch hwins
  · refine iff_of_false (by simp [hsearch]) ?_
    rintro ⟨p, hp, code, hcode, hwins⟩
    exact hwins.not_fallsBack (hfalls p hp code hcode)

/-- A program that fails wherever it is tried. -/
def Code.Fails (text : Haystack) (code : Code) : Prop :=
  ∀ below rest p slots resumed,
    FallsBack text below (onStack below (.run code :: rest) p slots resumed)

/-- An alternative that fails everywhere makes no difference after all others. -/
theorem search_choices_concat_iff {total : Nat} {last : Code} (hlast : last.Fails text)
    (hdirect : ∀ pair ∈ ends, pair.1.Direct) (hcodes : codes ≠ [])
    (hwithin : ((Code.choices codes).between ends).Within count)
    (hlonger : ((Code.choices (codes ++ [last])).between ends).Within count)
    (hopen : 0 < count) (hslots : count ≤ total)
    (hends : search (searching ((Code.choices codes).between ends)) total text ≠ .aborted)
    (hendsLonger : search (searching ((Code.choices (codes ++ [last])).between ends)) total text ≠
      .aborted) :
    search (searching ((Code.choices (codes ++ [last])).between ends)) total text = .matched ↔
      search (searching ((Code.choices codes).between ends)) total text = .matched := by
  have hnever (p : Nat) : ¬ Wins text ((last.between ends).found.attempt total p) := by
    intro hwins
    have hbegun : Steps text 3 ((last.between ends).found.attempt total p)
        (onStack [] (onward [last.between ends]) p _ 0) := steps_found _
    refine hwins.not_fallsBack (hbegun.fallsBack ?_)
    rcases between_cases hdirect text p ((Array.replicate total none).setIfInBounds 0 (some p)) with
      ⟨_, _, hsteps⟩ | hfalls
    · exact (hsteps last).fallsBack (hlast _ _ _ _ _)
    · exact hfalls last
  rw [search_choices_iff hdirect (by simp) hlonger hopen hslots hendsLonger,
    search_choices_iff hdirect hcodes hwithin hopen hslots hends]
  simp [or_and_right, exists_or, hnever]

end Patternwork.Backtrack
