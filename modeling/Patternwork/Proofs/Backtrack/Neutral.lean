import Patternwork.Proofs.Backtrack.Alternatives
import Patternwork.Proofs.Backtrack.Outcome
import Patternwork.Proofs.Negation.Program
import Patternwork.Proofs.Regular.DotCaret

namespace Patternwork.Backtrack

variable {referenced : List Nat} {slots : Nat} {start stop : Bool} {modes : Modes} {a : Tree}
  {trees : List Tree} {text : Haystack}

/-- A dot before a caret. -/
def dotCaretTree (modes : Modes) : Tree := .concat [.set modes.dot, .look modes.caret]

theorem isHard_dotCaretTree (modes : Modes) : (dotCaretTree modes).isHard referenced = false := by
  simp [dotCaretTree, Tree.isHard, Tree.anyHard, isHard_caret]

/-- The program of an anchor that may be called for. -/
def anchorCode (called : Bool) (condition : Look) : Code :=
  if called then .any (.look condition) else .pass

/-- The programs before and after a group between anchors, if there are any. -/
def framing (start stop : Bool) (modes : Modes) : Option (Code × Code) :=
  if start || stop then some (anchorCode start modes.caret, anchorCode stop modes.dollar) else none

theorem direct_of_mem_framing : ∀ pair ∈ framing start stop modes, pair.1.Direct := by
  rintro pair hpair
  cases start <;> cases stop <;> cases hpair
  case true.true | true.false => exact .any _
  case false.true => exact .pass

/-- What is hard is compiled between its anchors as it is without. -/
theorem compile?_framedTree (hhard : a.isHard referenced = true) :
    compile? referenced slots .every (framedTree start stop modes a) =
      (compile? referenced slots .every a).map (Code.between (framing start stop modes)) := by
  have hparts : a.asParts = [a] := by
    cases a with
    | empty => cases hhard
    | _ => rfl
  have hcaret : Tree.isHard referenced (.look modes.caret) = false := isHard_caret modes
  have hdollar : Tree.isHard referenced (.look modes.dollar) = false := isHard_dollar modes
  have hnothing : delegate? .every [] = some .pass := rfl
  rw [framedTree, hparts]
  cases start <;> cases stop
  case true.true => exact compile?_between slots .every hcaret hdollar hhard
  case false.false => exact (congrFun Option.map_id _).symm
  case true.false =>
    change compile? referenced slots .every (.concat [.look modes.caret, a]) = _
    rw [compile?]
    cases hinner : compile? referenced slots .every a <;>
      simp [assemble?, plainPrefix, plainSuffix, Tree.constSize, hhard, hcaret, compileEach,
        delegate?_look, hinner, Code.seqs, Code.between, framing, anchorCode, hnothing]
  case false.true =>
    change compile? referenced slots .every (.concat [a, .look modes.dollar]) = _
    rw [compile?]
    cases hinner : compile? referenced slots .every a <;>
      simp [assemble?, plainPrefix, plainSuffix, Tree.constSize, hhard, hdollar, compileEach,
        delegate?_look, hinner, Code.seqs, Code.between, framing, anchorCode, hnothing]

theorem compile?_alternation (htrees : trees ≠ []) :
    compile? referenced slots .every (alternation trees) =
      ((compileEach referenced slots .every trees).mapM id).map Code.choices := by
  match trees with
  | [a] =>
    simp only [alternation, compileEach, List.mapM_cons, List.mapM_nil]
    cases compile? referenced slots .every a <;> rfl
  | a :: b :: rest =>
    change compile? referenced slots .every (.alt (a :: b :: rest)) = _
    rw [compile?.eq_def, if_neg (by simp)]
    exact if_neg (by simp)

theorem compileEach_append (demand : Demand) (others : List Tree) :
    compileEach referenced slots demand (trees ++ others) =
      compileEach referenced slots demand trees ++ compileEach referenced slots demand others := by
  induction trees with
  | nil => rfl
  | cons a trees ih => rw [List.cons_append, compileEach, compileEach, ih, List.cons_append]

/-- The program of a dot before a caret, which is handed over. -/
def dotCaretCode (modes : Modes) : Code :=
  .seq (.any (.seq (.set modes.dot) (.look modes.caret))) .pass

theorem eq_dotCaretCode {code : Code}
    (hcode : compile? referenced slots .every (dotCaretTree modes) = some code) :
    code = dotCaretCode modes := by
  have hcaret : Tree.isHard referenced (.look modes.caret) = false := isHard_caret modes
  have hnothing : delegate? .every [] = some .pass := rfl
  rw [dotCaretTree, compile?] at hcode
  have hhanded : ((delegate? .every [.set modes.dot, .look modes.caret]).bind fun start =>
      some (start.seq .pass)) = some code := by
    simpa [assemble?, plainPrefix, plainSuffix, Tree.constSize, Tree.isHard, hcaret, compileEach,
      hnothing, Code.seqs] using hcode
  obtain ⟨start, hstart, hhanded⟩ := Option.bind_eq_some_iff.mp hhanded
  obtain ⟨nodes, hnodes, _, rfl⟩ := of_delegate? (by decide) (List.cons_ne_nil _ _) hstart
  cases hnodes
  exact (Option.some.inj hhanded).symm

theorem fails_dotCaretCode (hone : ¬ (modes.multiLine = true ∧ modes.dotAll = true)) :
    (dotCaretCode modes).Fails text := by
  intro below rest p slots resumed
  refine (Attempt.steps_seq _ _).fallsBack (Attempt.FallsTo.fallsBack (Attempt.fallsTo_any ?_))
  rw [Regular.reach_dot_caret hone]
  rfl

/-- The programs of alternatives, with a dot before a caret as the last one. -/
theorem eq_concat_of_mapM_compileEach {codes more : List Code}
    (hcodes : (compileEach referenced slots .every trees).mapM id = some codes)
    (hmore : (compileEach referenced slots .every (trees ++ [dotCaretTree modes])).mapM id =
      some more) : more = codes ++ [dotCaretCode modes] := by
  rw [compileEach_append, List.mapM_append, hcodes] at hmore
  obtain ⟨last, hlast, hmore⟩ := Option.bind_eq_some_iff.mp hmore
  cases hlast
  obtain ⟨last, hlast, hmore⟩ := Option.bind_eq_some_iff.mp hmore
  rw [compileEach, List.mapM_cons] at hlast
  obtain ⟨code, hcode, hlast⟩ := Option.bind_eq_some_iff.mp hlast
  cases hlast
  rw [← eq_dotCaretCode hcode]
  exact (Option.some.inj hmore).symm

theorem regulars?_concat_dotCaretTree {nodes : List Regular}
    (hnodes : Tree.regulars? trees = some nodes) :
    Tree.regulars? (trees ++ [dotCaretTree modes]) =
      some (nodes ++ [.seq (.set modes.dot) (.look modes.caret)]) := by
  rw [regulars?_append, hnodes]
  rfl

variable {reading : Reading} {plan longer : Plan}

theorem ne_nil_of_regulars? {nodes : List Regular} (htrees : trees ≠ [])
    (hnodes : Tree.regulars? trees = some nodes) : nodes ≠ [] := by
  cases trees with
  | nil => exact absurd rfl htrees
  | cons a rest =>
    obtain ⟨_, _, hnodes⟩ := Option.bind_eq_some_iff.mp hnodes
    obtain ⟨_, _, hnodes⟩ := Option.bind_eq_some_iff.mp hnodes
    cases hnodes
    exact List.cons_ne_nil _ _

theorem ne_nil_of_compileEach {demand : Demand} {codes : List Code} (htrees : trees ≠ [])
    (hcodes : (compileEach referenced slots demand trees).mapM id = some codes) : codes ≠ [] := by
  cases trees with
  | nil => exact absurd rfl htrees
  | cons a rest =>
    rw [compileEach, List.mapM_cons] at hcodes
    obtain ⟨_, _, hcodes⟩ := Option.bind_eq_some_iff.mp hcodes
    obtain ⟨_, _, hcodes⟩ := Option.bind_eq_some_iff.mp hcodes
    cases hcodes
    exact List.cons_ne_nil _ _

/-- The plan of alternatives in a group between anchors that need backtracking. -/
theorem of_ofReading?_hard (hplan : Plan.ofReading? reading = some plan)
    (htree : reading.tree = framedTree start stop modes (alternation trees))
    (hwithin : reading.tree.Within reading.groups reading.loops)
    (hhard : (alternation trees).isHard reading.referenced = true) (htrees : trees ≠ []) :
    ∃ codes, (compileEach reading.referenced (Plan.groupSlots reading) .every trees).mapM id =
        some codes ∧
      ((Code.choices codes).between (framing start stop modes)).Within
        (Plan.groupSlots reading + reading.loops) ∧
      plan = .program (searching ((Code.choices codes).between (framing start stop modes)))
        (Plan.groupSlots reading + reading.loops) := by
  rw [Plan.ofReading?, htree, isHard_framedTree, if_pos hhard] at hplan
  obtain ⟨code, hcode, rfl⟩ := Option.map_eq_some_iff.mp hplan
  have hcompiled := hcode
  rw [compile?_framedTree hhard, compile?_alternation htrees] at hcompiled
  obtain ⟨_, hchoices, rfl⟩ := Option.map_eq_some_iff.mp hcompiled
  obtain ⟨codes, hcodes, rfl⟩ := Option.map_eq_some_iff.mp hchoices
  exact ⟨codes, hcodes, compile?_within rfl _ _ (htree ▸ hwithin) hcode, rfl⟩

/-- The plan of alternatives in a group between anchors that are handed over. -/
theorem of_ofReading?_plain (hplan : Plan.ofReading? reading = some plan)
    (htree : reading.tree = framedTree start stop modes (alternation trees))
    (hplain : (alternation trees).isHard reading.referenced = false) (htrees : trees ≠ []) :
    ∃ nodes parts, Tree.regulars? trees = some nodes ∧
      Regular.seqs parts = Regular.alts nodes ∧
      plan = .regular (Regular.seqs (Regular.anchor start modes.caret ++
        (parts ++ Regular.anchor stop modes.dollar))) := by
  rw [Plan.ofReading?, htree, isHard_framedTree, hplain] at hplan
  cases hwhole : (framedTree start stop modes (alternation trees)).regular? with
  | none => simp [hwhole] at hplan
  | some whole =>
    obtain ⟨parts, hparts, rfl⟩ := of_regular?_framedTree hwhole
    rw [regular?_alternation htrees] at hparts
    obtain ⟨nodes, hnodes, halts⟩ := Option.map_eq_some_iff.mp hparts
    simp only [hwhole, Bool.false_eq_true, if_false] at hplan
    obtain ⟨_, hplan⟩ := Option.ite_none_right_eq_some.mp hplan
    exact ⟨nodes, parts, hnodes, halts.symm, (Option.some.inj hplan).symm⟩

/-- Alternatives match with a dot before a caret what they match without it. -/
theorem outcome_concat_dotCaret_iff (hone : ¬ (modes.multiLine = true ∧ modes.dotAll = true))
    (htrees : trees ≠ [])
    (hwithin : (framedTree start stop modes (alternation trees)).Within reading.groups
      reading.loops)
    (hwithinLonger : (framedTree start stop modes
      (alternation (trees ++ [dotCaretTree modes]))).Within reading.groups reading.loops)
    (hplan : Plan.ofReading?
      { reading with tree := framedTree start stop modes (alternation trees) } = some plan)
    (hlonger : Plan.ofReading?
      { reading with
        tree := framedTree start stop modes (alternation (trees ++ [dotCaretTree modes])) } =
          some longer)
    (hends : plan.outcome text ≠ .aborted) (hendsLonger : longer.outcome text ≠ .aborted) :
    longer.outcome text = .matched ↔ plan.outcome text = .matched := by
  have hconcat : trees ++ [dotCaretTree modes] ≠ [] := by simp
  have hsame : (alternation (trees ++ [dotCaretTree modes])).isHard reading.referenced =
      (alternation trees).isHard reading.referenced := by
    have hiff : (alternation (trees ++ [dotCaretTree modes])).isHard reading.referenced = false ↔
        (alternation trees).isHard reading.referenced = false := by
      rw [isHard_alternation, isHard_alternation, List.forall_mem_append]
      exact and_iff_left (List.forall_mem_singleton.mpr (isHard_dotCaretTree modes))
    exact Bool.eq_iff_iff.mpr (by simpa using not_congr hiff)
  cases hhard : (alternation trees).isHard reading.referenced with
  | false =>
    obtain ⟨nodes, parts, hnodes, hparts, rfl⟩ := of_ofReading?_plain hplan rfl hhard htrees
    obtain ⟨more, others, hmore, hothers, rfl⟩ :=
      of_ofReading?_plain hlonger rfl (hsame.trans hhard) hconcat
    have hfound : nodes ≠ [] := ne_nil_of_regulars? htrees hnodes
    have hlast (starts : List Nat) :
        (Regular.seq (.set modes.dot) (.look modes.caret)).reach text starts = [] :=
      Regular.reach_dot_caret hone starts
    have hreach := Regular.reach_alts_concat hfound hlast
    rw [regulars?_concat_dotCaretTree hnodes] at hmore
    obtain rfl := Option.some.inj hmore
    simp only [Plan.outcome, Regular.isMatch, Regular.reach_seqs_append, hparts, hothers, hreach]
  | true =>
    obtain ⟨codes, hcodes, hcount, rfl⟩ := of_ofReading?_hard hplan rfl hwithin hhard htrees
    obtain ⟨more, hmore, hcountMore, rfl⟩ :=
      of_ofReading?_hard hlonger rfl hwithinLonger (hsame.trans hhard) hconcat
    have hfound : codes ≠ [] := ne_nil_of_compileEach htrees hcodes
    obtain rfl := eq_concat_of_mapM_compileEach hcodes hmore
    exact search_choices_concat_iff (fails_dotCaretCode hone) direct_of_mem_framing hfound hcount
      hcountMore (Nat.add_pos_left Plan.groupSlots_pos _) (Nat.le_refl _) hends hendsLonger

end Patternwork.Backtrack
