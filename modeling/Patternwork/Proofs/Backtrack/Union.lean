import Mathlib.Tactic.Choose
import Patternwork.Proofs.Backtrack.Neutral
import Patternwork.Proofs.Backtrack.Plain
import Patternwork.Proofs.Backtrack.Reading.Alternatives

namespace Patternwork.Backtrack

variable {numbers : Numbers} {offset : Offset} {alone : Reading} {alones : List Reading}
  {start stop : Bool} {modes : Modes} {groups count : Nat} {code : Code} {text : Haystack}

theorem renumber_between (code : Code) :
    (code.between (framing start stop modes)).renumber numbers =
      (code.renumber numbers).between (framing start stop modes) := by
  cases start <;> cases stop <;> rfl

theorem uses_between (hcode : code.Uses groups count) :
    (code.between (framing start stop modes)).Uses groups count := by
  cases start <;> cases stop
  case false.false => exact hcode
  all_goals exact ⟨trivial, hcode, trivial⟩

theorem uses_searching (hcount : 1 < count) (hcode : code.Uses groups count) :
    (searching code).Uses groups count :=
  ⟨trivial, Nat.zero_lt_of_lt hcount, hcode, hcount⟩

/-- The plan of a pattern between anchors that needs backtracking and refers to no group. -/
theorem of_ofReading?_framed {single : Plan} (hunreferenced : alone.referenced = [])
    (hhard : alone.tree.isHard [] = true)
    (hsingle : Plan.ofReading?
      { alone with tree := framedTree start stop modes alone.tree } = some single) :
    ∃ code, compile? [] (Plan.groupSlots alone) .every alone.tree = some code ∧
      single = .program (searching (code.between (framing start stop modes)))
        (Plan.groupSlots alone + alone.loops) := by
  obtain ⟨tree, groups, loops, referenced⟩ := alone
  obtain rfl : referenced = [] := hunreferenced
  have hframed : (framedTree start stop modes tree).isHard [] = true :=
    isHard_framedTree.trans hhard
  rw [Plan.ofReading?_of_hard hframed, compile?_framedTree hhard, Option.map_map] at hsingle
  obtain ⟨code, hcode, rfl⟩ := Option.map_eq_some_iff.mp hsingle
  exact ⟨code, hcode, rfl⟩

/-- Wherever a pattern is placed, it is compiled to its program, with the numbers of its place. -/
theorem compile?_placedTree (hwithin : alone.tree.Within alone.groups alone.loops)
    (hcode : compile? [] (Plan.groupSlots alone) .every alone.tree = some code) (offset : Offset)
    (total : Nat) :
    compile? [] total .every (placedTree (offset, alone)) =
      some (code.renumber (offset.numbers (Plan.groupSlots alone) total)) := by
  have hslots : Plan.groupSlots alone = 2 * (alone.groups + 1) := rfl
  rw [placedTree, compile?_renumber hslots .every alone.tree hwithin, hcode]
  rfl

/-- Wherever a pattern is placed, a search for it between anchors ends as it does for the pattern
    alone. -/
theorem outcome_placed {total further : Nat} {single : Plan} {other : Code}
    (hunreferenced : alone.referenced = []) (hhard : alone.tree.isHard [] = true)
    (hwithin : alone.tree.Within alone.groups alone.loops)
    (hgroups : Plan.groupSlots alone + 2 * offset.groups ≤ total)
    (hloops : alone.loops + offset.loops ≤ further)
    (hsingle : Plan.ofReading?
      { alone with tree := framedTree start stop modes alone.tree } = some single)
    (hother : compile? [] total .every (placedTree (offset, alone)) = some other) :
    single.outcome text =
      search (searching (other.between (framing start stop modes))) (total + further) text := by
  obtain ⟨code, hcode, rfl⟩ := of_ofReading?_framed hunreferenced hhard hsingle
  have hslots : Plan.groupSlots alone = 2 * (alone.groups + 1) := rfl
  obtain rfl :=
    Option.some.inj ((compile?_placedTree hwithin hcode offset total).symm.trans hother)
  have hfits : (offset.numbers (Plan.groupSlots alone) total).Fits alone.groups
      (Plan.groupSlots alone + alone.loops) (total + further) :=
    Offset.numbers_fits hslots hgroups hloops
  have huses : code.Uses alone.groups (Plan.groupSlots alone + alone.loops) :=
    (Code.inherited_uses hslots).compile? alone.tree code hwithin hcode
  have hsearching : (searching (code.between (framing start stop modes))).Uses alone.groups
      (Plan.groupSlots alone + alone.loops) := uses_searching (by omega) (uses_between huses)
  refine (search_renumber hfits hsearching text).symm.trans ?_
  rw [← renumber_between]
  rfl

theorem le_foldl_past (offset : Offset) (alones : List Reading) :
    offset.groups ≤ (alones.foldl Offset.past offset).groups ∧
      offset.loops ≤ (alones.foldl Offset.past offset).loops := by
  induction alones generalizing offset with
  | nil => exact ⟨Nat.le_refl _, Nat.le_refl _⟩
  | cons alone rest ih =>
    obtain ⟨hgroups, hloops⟩ := ih (offset.past alone)
    exact ⟨Nat.le_trans (Nat.le_add_right ..) hgroups, Nat.le_trans (Nat.le_add_right ..) hloops⟩

/-- There is room for all that is placed. -/
theorem le_of_mem_placed {before : Offset} (hplaced : (before, alone) ∈ placed offset alones) :
    before.groups + alone.groups ≤ (alones.foldl Offset.past offset).groups ∧
      before.loops + alone.loops ≤ (alones.foldl Offset.past offset).loops := by
  induction alones generalizing offset with
  | nil => cases hplaced
  | cons first rest ih =>
    rcases List.mem_cons.mp hplaced with heq | hplaced
    · obtain ⟨rfl, rfl⟩ := Prod.mk.inj heq
      exact le_foldl_past (before.past alone) rest
    · exact ih hplaced

theorem map_snd_placed (offset : Offset) (alones : List Reading) :
    (placed offset alones).map Prod.snd = alones := by
  induction alones generalizing offset with
  | nil => rfl
  | cons alone rest ih => rw [placed, List.map_cons, ih]

theorem Code.between_within_of_mem {ends : Option (Code × Code)} {codes : List Code}
    (hwithin : ((choices codes).between ends).Within count) (hcode : code ∈ codes) :
    (code.between ends).Within count := by
  cases ends with
  | none => exact within_of_choices hwithin code hcode
  | some pair => exact ⟨hwithin.1, within_of_choices hwithin.2.1 code hcode, hwithin.2.2⟩

/-- The program of a pattern between anchors where it is placed, in a program with room for it. -/
structure Offset.Places (offset : Offset) (start stop : Bool) (modes : Modes) (alone : Reading)
    (total further : Nat) (other : Code) : Prop where
  groups : Plan.groupSlots alone + 2 * offset.groups ≤ total
  loops : alone.loops + offset.loops ≤ further
  compiled : compile? [] total .every (placedTree (offset, alone)) = some other
  within : (other.between (framing start stop modes)).Within (total + further)

/-- Wherever a pattern is placed, it is found as its plan between anchors finds it. -/
structure Found (start stop : Bool) (modes : Modes) (text : Haystack) (alone : Reading)
    (single : Plan) : Prop where
  planned : Plan.ofReading? { alone with tree := framedTree start stop modes alone.tree } =
    some single
  matched_of_wins : ∀ {offset : Offset} {total further : Nat} {other : Code},
    offset.Places start stop modes alone total further other →
    ∀ p ≤ text.size, Attempt.Wins text
      ((other.between (framing start stop modes)).found.attempt (total + further) p) →
        single.outcome text = .matched
  ne_matched_of_fallsBack : ∀ {offset : Offset} {total further : Nat} {other : Code},
    offset.Places start stop modes alone total further other →
    (∀ p ≤ text.size, Attempt.FallsBack text []
      ((other.between (framing start stop modes)).found.attempt (total + further) p)) →
        single.outcome text ≠ .matched

/-- A pattern that needs backtracking and refers to no group is found wherever it is placed, if the
    search for it alone is not given up. -/
theorem Found.of_hard {single : Plan} (hunreferenced : alone.referenced = [])
    (hhard : alone.tree.isHard [] = true)
    (hwithin : alone.tree.Within alone.groups alone.loops)
    (hplanned : Plan.ofReading? { alone with tree := framedTree start stop modes alone.tree } =
      some single) (hends : single.outcome text ≠ .aborted) :
    Found start stop modes text alone single := by
  have hiff {offset : Offset} {total further : Nat} {other : Code}
      (hplaces : offset.Places start stop modes alone total further other) :
      single.outcome text = .matched ↔ ∃ p ≤ text.size, Attempt.Wins text
        ((other.between (framing start stop modes)).found.attempt (total + further) p) := by
    rw [outcome_placed hunreferenced hhard hwithin hplaces.groups hplaces.loops hplanned
      hplaces.compiled] at hends ⊢
    have hopen : 0 < total + further := by
      have hpos : 0 < Plan.groupSlots alone := Plan.groupSlots_pos
      have hgroups := hplaces.groups
      omega
    have hsearch : search (searching (other.between (framing start stop modes)))
        (total + further) text = .matched ↔ ∃ p ≤ text.size, ∃ code ∈ [other],
          Attempt.Wins text _ :=
      search_choices_iff direct_of_mem_framing (List.cons_ne_nil other []) hplaces.within hopen
        (Nat.le_refl _) hends
    rw [hsearch]
    simp only [List.mem_singleton, exists_eq_left]
  exact
    { planned := hplanned
      matched_of_wins := fun hplaces p hp hwins => (hiff hplaces).mpr ⟨p, hp, hwins⟩
      ne_matched_of_fallsBack := fun hplaces hfalls hmatched => by
        obtain ⟨p, hp, hwins⟩ := (hiff hplaces).mp hmatched
        exact hwins.not_fallsBack (hfalls p hp) }

theorem walks_anchorCode (called : Bool) (condition : Look) :
    (anchorCode called condition).Walks text
      ((Regular.seqs (Regular.anchor called condition)).Moves text) := by
  cases called with
  | false => exact (Code.Walks.pass text).congr fun p q => List.mem_singleton.symm
  | true => exact .any fun p q r hq hr => (Regular.moves_look hq).trans (Regular.moves_look hr).symm

theorem walks_between {parts : List Regular}
    (hcode : code.Walks text ((Regular.seqs parts).Moves text)) :
    (code.between (framing start stop modes)).Walks text
      ((Regular.seqs (Regular.anchor start modes.caret ++
        (parts ++ Regular.anchor stop modes.dollar))).Moves text) := by
  have hseq : (Code.seq (anchorCode start modes.caret)
      (.seq code (anchorCode stop modes.dollar))).Walks text
        ((Regular.seqs (Regular.anchor start modes.caret ++
          (parts ++ Regular.anchor stop modes.dollar))).Moves text) := by
    refine ((walks_anchorCode start modes.caret).seq
      (hcode.seq (walks_anchorCode stop modes.dollar))).congr fun p q => ?_
    refine Iff.trans ?_ Regular.mem_reach_seqs_append.symm
    exact exists_congr fun r => and_congr_right fun _ => Regular.mem_reach_seqs_append.symm
  cases start <;> cases stop
  case false.false =>
    refine hcode.congr fun p q => ?_
    simp [Regular.anchor]
  all_goals exact hseq

theorem decides_found {moves : Nat → Nat → Prop} (hcode : code.Walks text moves) (p : Nat) :
    Decides text [.run code.found] p (∃ q, moves p q) := by
  have hend (q : Nat) : Decides text [.run (.save 1)] q True :=
    fun _ below slots resumed _ => by
      obtain ⟨_, hsave, hmatched⟩ := Attempt.wins_of_save text
        (show (Attempt.onStack below [.run (.save 1)] q slots resumed).goals = _ from rfl)
      exact .inl ⟨trivial, 1, _, hsave, hmatched⟩
  refine ((hcode fun q _ => hend q).of_steps fun below slots resumed =>
    ⟨3, _, steps_found code⟩).congr ?_
  simp only [and_true]

/-- A pattern that needs no backtracking is found wherever it is placed, if nothing is repeated in
    it without an upper bound that can match nothing. -/
theorem Found.of_plain {single : Plan} (hplain : alone.tree.isHard [] = false)
    (hunreferenced : alone.referenced = []) (hsteady : alone.tree.steady = true)
    (hplanned : Plan.ofReading? { alone with tree := framedTree start stop modes alone.tree } =
      some single) : Found start stop modes text alone single := by
  obtain ⟨tree, groups, loops, referenced⟩ := alone
  obtain rfl : referenced = [] := hunreferenced
  obtain ⟨whole, hwhole, _, rfl⟩ :=
    (Plan.ofReading?_eq_some_of_plain (isHard_framedTree.trans hplain)).mp hplanned
  obtain ⟨parts, hparts, rfl⟩ := of_regular?_framedTree hwhole
  have hmatched : (Plan.regular (Regular.seqs (Regular.anchor start modes.caret ++
      (parts ++ Regular.anchor stop modes.dollar)))).outcome text = .matched ↔
        ∃ p ≤ text.size, ∃ q, (Regular.seqs (Regular.anchor start modes.caret ++
          (parts ++ Regular.anchor stop modes.dollar))).Moves text p q := by
    rw [Plan.outcome_regular_iff]
    simp [Plan.outcomeAt, Regular.Moves, List.eq_nil_iff_forall_not_mem]
  have hdecides {offset : Offset} {total further : Nat} {other : Code}
      (hplaces : offset.Places start stop modes ⟨tree, groups, loops, []⟩ total further other)
      (p : Nat) : Decides text [.run (other.between (framing start stop modes)).found] p
        (∃ q, (Regular.seqs (Regular.anchor start modes.caret ++
          (parts ++ Regular.anchor stop modes.dollar))).Moves text p q) := by
    refine decides_found (walks_between ?_) p
    exact (tree.renumber offset).walksAs (tree.isHard_renumber.trans hplain)
      ((Tree.steady_renumber tree).trans hsteady) hplaces.compiled
      ((Tree.regular?_renumber tree).trans hparts)
  refine ⟨hplanned, fun hplaces p hp hwins => ?_, fun hplaces hfalls hfound => ?_⟩
  · obtain ⟨bound, hends⟩ := hwins.exists_ends
    rcases hdecides hplaces p hends with ⟨hmoves, _⟩ | ⟨_, hfalls⟩
    · exact hmatched.mpr ⟨p, hp, hmoves⟩
    · exact absurd hfalls hwins.not_fallsBack
  · obtain ⟨p, hp, hmoves⟩ := hmatched.mp hfound
    obtain ⟨bound, hends⟩ := (hfalls p hp).exists_ends
    rcases hdecides hplaces p hends with ⟨_, hwins⟩ | ⟨hnone, _⟩
    · exact hwins.not_fallsBack (hfalls p hp)
    · exact hnone hmoves

/-- Patterns as alternatives match what one of them matches. -/
theorem outcome_joined_iff {joined : Reading} {plan : Plan}
    (hjoined : joined = joinedReading start stop modes alones)
    (hwithin : joined.tree.Within joined.groups joined.loops) (halones : alones ≠ [])
    (hplan : Plan.ofReading? joined = some plan) (hprogram : plan.backtracks = true)
    (hends : plan.outcome text ≠ .aborted)
    (hfound : ∀ alone ∈ alones, ∃ single, Found start stop modes text alone single) :
    plan.outcome text = .matched ↔
      ∃ alone ∈ alones, ∃ single, Found start stop modes text alone single ∧
        single.outcome text = .matched := by
  have htrees : (placed ⟨0, 0⟩ alones).map placedTree ≠ [] := by
    simpa using placed_ne_nil ⟨0, 0⟩ halones
  have hunreferenced : joined.referenced = [] := by rw [hjoined]; rfl
  have htree : joined.tree = framedTree start stop modes
      (alternation ((placed ⟨0, 0⟩ alones).map placedTree)) := by rw [hjoined]; rfl
  have hhard : (alternation ((placed ⟨0, 0⟩ alones).map placedTree)).isHard joined.referenced =
      true := by
    refine Bool.of_not_eq_false fun hplain => ?_
    obtain ⟨_, _, _, _, rfl⟩ := of_ofReading?_plain hplan htree hplain htrees
    cases hprogram
  obtain ⟨codes, hcodes, hcount, rfl⟩ := of_ofReading?_hard hplan htree hwithin hhard htrees
  have hcompiled : (placed ⟨0, 0⟩ alones).mapM (fun found =>
      compile? [] (Plan.groupSlots joined) .every (placedTree found)) = some codes := by
    rw [← hcodes, hunreferenced, compileEach_eq_map, List.mapM_map, List.mapM_map]
    rfl
  have hmember {before : Offset} {alone : Reading}
      (hplaced : (before, alone) ∈ placed ⟨0, 0⟩ alones) : alone ∈ alones := by
    rw [← map_snd_placed ⟨0, 0⟩ alones]
    exact List.mem_map_of_mem hplaced
  have hplaces {before : Offset} {alone : Reading} {code : Code}
      (hplaced : (before, alone) ∈ placed ⟨0, 0⟩ alones)
      (hcode : compile? [] (Plan.groupSlots joined) .every (placedTree (before, alone)) =
        some code) :
      code ∈ codes ∧
        before.Places start stop modes alone (Plan.groupSlots joined) joined.loops code := by
    have hmem : code ∈ codes := (mem_iff_of_mapM hcompiled code).mpr ⟨_, hplaced, hcode⟩
    obtain ⟨hgroups, hloops⟩ := le_of_mem_placed hplaced
    refine ⟨hmem, ?_, ?_, hcode, Code.between_within_of_mem hcount hmem⟩
    · simp only [Plan.groupSlots, hjoined, joinedReading]
      omega
    · simp only [hjoined, joinedReading]
      omega
  rcases search_choices_cases direct_of_mem_framing (ne_nil_of_compileEach htrees hcodes)
    hcount (Nat.add_pos_left Plan.groupSlots_pos _) (Nat.le_refl _) hends with
    ⟨hmatched, p, hp, code, hmem, hwins⟩ | ⟨hunmatched, hfalls⟩
  · refine iff_of_true hmatched ?_
    obtain ⟨⟨before, alone⟩, hplaced, hcode⟩ := (mem_iff_of_mapM hcompiled code).mp hmem
    obtain ⟨single, hsingle⟩ := hfound alone (hmember hplaced)
    exact ⟨alone, hmember hplaced, single, hsingle,
      hsingle.matched_of_wins (hplaces hplaced hcode).2 p hp hwins⟩
  · refine iff_of_false (by simp [Plan.outcome, hunmatched]) ?_
    rintro ⟨alone, halone, single, hsingle, hmatched⟩
    rw [← map_snd_placed ⟨0, 0⟩ alones] at halone
    obtain ⟨⟨before, alone⟩, hplaced, rfl⟩ := List.mem_map.mp halone
    obtain ⟨code, hcode⟩ := exists_of_mapM hcompiled _ hplaced
    obtain ⟨hmem, hplaced⟩ := hplaces hplaced hcode
    exact hsingle.ne_matched_of_fallsBack hplaced (fun p hp => hfalls p hp code hmem) hmatched

/-- A movable pattern is found between anchors as its plan finds it. -/
theorem Movable.found {flags : Flags} {item : List Char} {single : Plan}
    (hmovable : Movable flags item alone)
    (hparse : Plan.parse? (flags.inlineGroup.toList ++ Item.anchored start stop item) = some single)
    (hends : single.outcome text ≠ .aborted) :
    Found start stop flags.modes text alone single := by
  obtain ⟨reading, hread, hplan⟩ := Option.bind_eq_some_iff.mp hparse
  obtain ⟨_, helements, _⟩ := read?_eq_some_iff.mp hmovable.read
  obtain ⟨other, hother, rfl⟩ := (read?_of_anchored hread).resolve_right fun hexcept =>
    hexcept.elim (not_closesOuter hmovable.read) (not_flagsRepeated_of_read helements)
  obtain rfl := Option.some.inj (hmovable.read.symm.trans hother)
  cases hhard : alone.tree.isHard [] with
  | true => exact .of_hard hmovable.unreferenced hhard (read?_within hmovable.read) hplan hends
  | false =>
    refine .of_plain hhard hmovable.unreferenced (hmovable.steady.resolve_left ?_) hplan
    simp [hhard]

/-- Between anchors movable patterns as alternatives match what one of them matches there, if they
    are matched together by a program and no search is given up. -/
theorem outcome_branches_iff {flags : Flags} {items : List (List Char)} {plan : Plan}
    (hitems : items ≠ []) (hmovable : ∀ item ∈ items, ∃ alone, Movable flags item alone)
    (hsingle : ∀ item ∈ items, ∃ single,
      Plan.parse? (flags.inlineGroup.toList ++ Item.anchored start stop item) = some single ∧
        single.outcome text ≠ .aborted)
    (hparse : Plan.parse? (flags.inlineGroup.toList ++
      Item.anchored start stop (Item.branches true items)) = some plan)
    (hprogram : plan.backtracks = true) (hends : plan.outcome text ≠ .aborted) :
    plan.outcome text = .matched ↔ ∃ item ∈ items, ∃ single,
      Plan.parse? (flags.inlineGroup.toList ++ Item.anchored start stop item) = some single ∧
        single.outcome text = .matched := by
  have : Nonempty Reading := ⟨⟨.empty, 0, 0, []⟩⟩
  choose! alone halone using hmovable
  have halones : List.Forall₂ (Movable flags) items (items.map alone) :=
    List.forall₂_map_right_iff.mpr (List.forall₂_same.mpr halone)
  obtain ⟨joined, hread, hplan⟩ := Option.bind_eq_some_iff.mp hparse
  have hfound : ∀ item ∈ items, ∃ single,
      Plan.parse? (flags.inlineGroup.toList ++ Item.anchored start stop item) = some single ∧
        Found start stop flags.modes text (alone item) single := by
    intro item hitem
    obtain ⟨single, hsingle, hlives⟩ := hsingle item hitem
    exact ⟨single, hsingle, (halone item hitem).found hsingle hlives⟩
  rw [outcome_joined_iff (eq_joinedReading halones hitems hread) (read?_within hread)
    (by simpa using hitems) hplan hprogram hends ?_]
  · simp only [List.mem_map, exists_exists_and_eq_and]
    refine exists_congr fun item => and_congr_right fun hitem => ?_
    obtain ⟨single, hsingle, halone⟩ := hfound item hitem
    constructor
    · rintro ⟨other, hother, hmatched⟩
      obtain rfl := Option.some.inj (halone.planned.symm.trans hother.planned)
      exact ⟨single, hsingle, hmatched⟩
    · rintro ⟨other, hother, hmatched⟩
      obtain rfl := Option.some.inj (hsingle.symm.trans hother)
      exact ⟨single, halone, hmatched⟩
  · simp only [List.forall_mem_map]
    intro item hitem
    obtain ⟨single, _, hfound⟩ := hfound item hitem
    exact ⟨single, hfound⟩

end Patternwork.Backtrack
