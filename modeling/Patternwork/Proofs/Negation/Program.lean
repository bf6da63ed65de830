import Patternwork.Proofs.Backtrack.Compiled
import Patternwork.Proofs.Backtrack.Framed
import Patternwork.Proofs.Backtrack.Guard

namespace Patternwork.Backtrack

variable {referenced : List Nat} {slots : Nat} {demand : Demand} {a : Tree} {code : Code}

/-- Parts that are handed over all together. -/
theorem of_delegate? {parts : List Tree} (hdemand : demand ≠ .first) (hparts : parts ≠ [])
    (hcode : delegate? demand parts = some code) :
    ∃ nodes, Tree.regulars? parts = some nodes ∧ (Regular.seqs nodes).fits = true ∧
      code = .any (Regular.seqs nodes) := by
  unfold delegate? at hcode
  split at hcode
  next => exact absurd rfl hparts
  next =>
    obtain ⟨nodes, hnodes, hcode⟩ := Option.bind_eq_some_iff.mp hcode
    obtain ⟨hfits, hcode⟩ := Option.ite_none_right_eq_some.mp hcode
    exact ⟨nodes, hnodes, hfits, by simpa [hdemand] using hcode.symm⟩

/-- A part that is handed over alone. -/
theorem of_delegate?_single (hdemand : demand ≠ .first) (hcode : delegate? demand [a] = some code) :
    ∃ node, a.regular? = some node ∧ node.fits = true ∧ code = .any node := by
  obtain ⟨nodes, hnodes, hfits, rfl⟩ := of_delegate? hdemand (List.cons_ne_nil a []) hcode
  obtain ⟨node, hnode, hnodes⟩ := Option.bind_eq_some_iff.mp hnodes
  cases hnodes
  exact ⟨node, hnode, hfits, rfl⟩

/-- The program of the loop in a negation. -/
theorem compile?_loopTree {modes : Modes} {loop : Nat} {guard : Tree}
    (hcode : compile? referenced slots .every (loopTree modes loop guard) = some code) :
    ∃ inner, compile? referenced slots .some guard = some inner ∧
      code = .star true (inner.guarding modes.dot) := by
  obtain ⟨step, hstep, rfl⟩ : ∃ step,
      compile? referenced slots .every (.concat [.ahead true guard, .set modes.dot]) = some step ∧
        .star true step = code := by
    simpa [loopTree, compile?, repeatDemand, repetition, Tree.minSize, Tree.sumSizes] using hcode
  have hparts : ((delegate? .every []).bind fun start =>
      ((compile? referenced slots .some guard).map .notAhead).bind fun look =>
        (delegate? .every [.set modes.dot]).bind fun stop =>
          some (Code.seqs [start, look, stop])) = some step := by
    rw [← hstep]
    simp [compile?, assemble?, plainPrefix, plainSuffix, Tree.constSize, Tree.isHard, compileEach,
      Option.bind_assoc]
  obtain ⟨start, hstart, hparts⟩ := Option.bind_eq_some_iff.mp hparts
  obtain ⟨look, hlook, hparts⟩ := Option.bind_eq_some_iff.mp hparts
  obtain ⟨stop, hstop, hparts⟩ := Option.bind_eq_some_iff.mp hparts
  obtain ⟨inner, hinner, rfl⟩ := Option.map_eq_some_iff.mp hlook
  obtain ⟨node, hnode, _, rfl⟩ := of_delegate?_single (by decide) hstop
  cases hstart
  cases hnode
  cases hparts
  exact ⟨inner, hinner, rfl⟩

/-- A condition is handed over as it is. -/
theorem delegate?_look (demand : Demand) (condition : Look) :
    delegate? demand [.look condition] = some (.any (.look condition)) := by
  have hfits : Regular.fits (.look condition) = true := by
    cases condition with
    | word edge ascii => cases edge <;> cases ascii <;> decide
    | _ => decide
  simp [delegate?, Tree.regulars?, Tree.regular?, Regular.seqs, hfits, Tree.allConst,
    Tree.constSize]

/-- The program of a part that is not handed over, between conditions that are. -/
theorem compile?_between {first last : Look} (slots : Nat) (demand : Demand)
    (hfirst : Tree.isHard referenced (.look first) = false)
    (hlast : Tree.isHard referenced (.look last) = false) (hhard : a.isHard referenced = true) :
    compile? referenced slots demand (.concat [.look first, a, .look last]) =
      (compile? referenced slots .every a).map fun inner =>
        .seq (.any (.look first)) (.seq inner (.any (.look last))) := by
  have hwhole : Tree.isHard referenced (.concat [.look first, a, .look last]) = true := by
    simp [Tree.isHard, Tree.anyHard, hhard]
  rw [compile?]
  cases hinner : compile? referenced slots .every a <;>
    simp [assemble?, plainPrefix, plainSuffix, Tree.constSize, hwhole, hhard, hfirst, hlast,
      compileEach, delegate?_look, hinner, Code.seqs]

/-- The program of a loop under a guard, between anchors. -/
def loopBetween (modes : Modes) (guard : Code) : Code :=
  .seq (.any (.look modes.caret))
    (.seq (.star true (guard.guarding modes.dot)) (.any (.look modes.dollar)))

variable {alone : Reading} {modes : Modes} {guard : Tree} {plan : Plan}

/-- The plan of a negation between anchors. -/
theorem of_ofReading?_loopBetween
    (hplan : Plan.ofReading?
      { alone with
        tree := .concat
          [.look modes.caret, loopTree modes alone.loops guard, .look modes.dollar]
        loops := alone.loops + 1 } = some plan) :
    ∃ inner, compile? alone.referenced (Plan.groupSlots alone) .some guard = some inner ∧
      plan = .program (searching (loopBetween modes inner))
        (Plan.groupSlots alone + (alone.loops + 1)) := by
  have hloop : (loopTree modes alone.loops guard).isHard alone.referenced = true := rfl
  have hhard : Tree.isHard alone.referenced (.concat
      [.look modes.caret, loopTree modes alone.loops guard, .look modes.dollar]) = true := by
    simp [Tree.isHard, Tree.anyHard, hloop]
  rw [Plan.ofReading?, if_pos hhard] at hplan
  obtain ⟨code, hcode, rfl⟩ := Option.map_eq_some_iff.mp hplan
  rw [compile?_between _ .every (isHard_caret modes) (isHard_dollar modes) hloop] at hcode
  obtain ⟨star, hstar, rfl⟩ := Option.map_eq_some_iff.mp hcode
  obtain ⟨inner, hinner, rfl⟩ := compile?_loopTree hstar
  exact ⟨inner, hinner, rfl⟩

/-- The plan of a negation without anchors. -/
theorem of_ofReading?_loop
    (hplan : Plan.ofReading?
      { alone with
        tree := loopTree modes alone.loops guard
        loops := alone.loops + 1 } = some plan) :
    ∃ inner, compile? alone.referenced (Plan.groupSlots alone) .some guard = some inner ∧
      plan = .program (searching (.star true (inner.guarding modes.dot)))
        (Plan.groupSlots alone + (alone.loops + 1)) := by
  have hhard : (loopTree modes alone.loops guard).isHard alone.referenced = true := rfl
  rw [Plan.ofReading?, if_pos hhard] at hplan
  obtain ⟨code, hcode, rfl⟩ := Option.map_eq_some_iff.mp hplan
  obtain ⟨inner, hinner, rfl⟩ := compile?_loopTree hcode
  exact ⟨inner, hinner, rfl⟩

/-- The plan of a look-ahead. -/
theorem ofReading?_ahead {inner : Code}
    (hinner : compile? alone.referenced (Plan.groupSlots alone) .some alone.tree = some inner) :
    Plan.ofReading? { alone with tree := .ahead false alone.tree } =
      some (.program (searching (.ahead inner)) (Plan.groupSlots alone + alone.loops)) := by
  have hcode : compile? alone.referenced (Plan.groupSlots alone) .every
      (.ahead false alone.tree) = some (.ahead inner) := by
    simp [compile?, hinner]
  rw [Plan.ofReading?, if_pos (by rfl)]
  exact congrArg (Option.map _) hcode

/-- A tree between anchors is handed over with its anchors, if it is handed over. -/
theorem regular?_anchoredTree {node : Regular}
    (hnode : (anchoredTree modes a).regular? = some node) :
    ∃ rest, node = .seq (.look modes.caret) rest := by
  have hconcat (parts : List Tree) (b : Tree)
      (hparts : (Tree.concat (.look modes.caret :: b :: parts)).regular? = some node) :
      ∃ rest, node = .seq (.look modes.caret) rest := by
    obtain ⟨nodes, hnodes, rfl⟩ := Option.map_eq_some_iff.mp hparts
    obtain ⟨rest, hrest, hnodes⟩ := Option.bind_eq_some_iff.mp hnodes
    obtain ⟨second, _, hrest⟩ := Option.bind_eq_some_iff.mp hrest
    obtain ⟨more, _, hrest⟩ := Option.bind_eq_some_iff.mp hrest
    cases hrest
    cases hnodes
    exact ⟨_, rfl⟩
  cases a with
  | empty => exact hconcat [] _ hnode
  | _ => exact hconcat [.look modes.dollar] _ hnode

/-- A pattern between anchors, beside the guard that tests it: both are the same program, or
    both are handed over. -/
theorem exists_ofReading?_anchored {inner : Code}
    (hinner : compile? alone.referenced (Plan.groupSlots alone) .some
      (anchoredTree modes alone.tree) = some inner) :
    ∃ anchored, Plan.ofReading? { alone with tree := anchoredTree modes alone.tree } =
        some anchored ∧
      ((∃ rest, inner = .seq (.any (.look modes.caret)) rest ∧
          anchored = .program (searching inner) (Plan.groupSlots alone + alone.loops)) ∨
        ∃ rest, inner = .any (.seq (.look modes.caret) rest) ∧
          anchored = .regular (.seq (.look modes.caret) rest)) := by
  by_cases hhard : (anchoredTree modes alone.tree).isHard alone.referenced = true
  · have htree : anchoredTree modes alone.tree =
        .concat [.look modes.caret, alone.tree, .look modes.dollar] := by
      revert hhard
      cases alone.tree with
      | empty => simp [anchoredTree, joinParts, Tree.asParts, Tree.isHard, Tree.anyHard,
          isHard_caret, isHard_dollar]
      | _ => exact fun _ => rfl
    have halone : alone.tree.isHard alone.referenced = true := by
      simpa [htree, Tree.isHard, Tree.anyHard, isHard_caret, isHard_dollar] using hhard
    have hbetween (demand : Demand) := compile?_between (Plan.groupSlots alone) demand
      (isHard_caret modes) (isHard_dollar modes) halone
    have hcode : compile? alone.referenced (Plan.groupSlots alone) .every
        (anchoredTree modes alone.tree) = some inner := by
      rw [← hinner, htree, hbetween .every, hbetween .some]
    rw [htree, hbetween .some] at hinner
    obtain ⟨_, _, rfl⟩ := Option.map_eq_some_iff.mp hinner
    refine ⟨_, ?_, .inl ⟨_, rfl, rfl⟩⟩
    rw [Plan.ofReading?, if_pos hhard]
    exact congrArg (Option.map _) hcode
  · have hdelegate : delegate? .some [anchoredTree modes alone.tree] = some inner := by
      rw [← hinner, compile?.eq_def, if_pos (by simp [hhard])]
    obtain ⟨node, hnode, hfits, rfl⟩ := of_delegate?_single (by decide) hdelegate
    obtain ⟨rest, rfl⟩ := regular?_anchoredTree hnode
    refine ⟨_, ?_, .inr ⟨rest, rfl, rfl⟩⟩
    rw [Plan.ofReading?, if_neg hhard]
    simp [hnode, hfits]

end Patternwork.Backtrack
