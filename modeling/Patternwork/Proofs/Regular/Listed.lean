import Patternwork.Proofs.Backtrack.Reading.Assembled
import Patternwork.Proofs.Notation.SelfContained
import Patternwork.Proofs.Regular.DotCaret
import Patternwork.Proofs.Regular.Literal

namespace Patternwork.Regular

variable {progress last whole : Progress} {modes : Modes} {flags : Flags} {start stop wrap : Bool}
  {body rest input : List Char} {fuel : Nat} {a longer : Regular} {text : Haystack}

/-- More rounds than enough make no difference. -/
theorem readElements_add (hread : readElements fuel progress input = some whole) (more : Nat) :
    readElements (fuel + more) progress input = some whole := by
  induction fuel generalizing progress input with
  | zero => cases hread
  | succ fuel ih =>
    rw [show fuel + 1 + more = fuel + more + 1 by omega]
    rw [readElements] at hread ⊢
    cases hskip : progress.modes.skip input with
    | nil =>
      rw [hskip] at hread
      exact hread
    | cons c input =>
      simp only [hskip] at hread ⊢
      obtain ⟨⟨next, left⟩, hnext, hread⟩ := Option.bind_eq_some_iff.mp hread
      rw [hnext]
      exact ih hread

/-- The notation of regular expressions, as far as alternatives go. -/
def reader : Reader Progress Enclosing where
  read := readElements
  modes := Progress.modes
  groups := Progress.enclosing
  next progress := { progress with branches := progress.branches.next }
  modes_next _ := rfl
  groups_next _ := rfl
  leads_bar _ _ := leads_of_readElement (skip_cons _ (by decide) (by decide) _) (Nat.le_refl _) rfl
  read_add := readElements_add

theorem reader_read : reader.read = readElements := rfl

theorem readElements_of_leads (hleads : Leads readElements progress input last rest)
    (hread : readElements fuel progress input = some whole) :
    readElements fuel last rest = some whole := reader.read_of_leads hleads hread

/-- A text that stands for itself is self-contained. -/
theorem selfContained_of_literal (wrap : Bool) {item : List Char}
    (hplain : modes.verbose = false) (hliteral : Literal item) :
    reader.SelfContained modes (Item.branch wrap item) := by
  intro (state : Progress) hmodes _
  change state.modes = modes at hmodes
  obtain ⟨parts, _, hbranch⟩ := leads_branch_word state wrap (by rw [hmodes, hplain]) hliteral
  exact ⟨{ state with
      branches := { state.branches with parts := parts ++ state.branches.parts } },
    hmodes, rfl, fun rest _ _ _ _ => hbranch rest⟩

/-- Inline flags leave at most a part that matches nothing but the empty text. -/
theorem exists_leads_inlineGroup (flags : Flags) :
    ∃ before, Switched before ∧ ∀ rest, Leads readElements {} (flags.inlineGroup.toList ++ rest)
      { branches := { parts := before }, modes := flags.modes } rest := by
  obtain ⟨_, _, i, m, s, _, _, _⟩ := flags
  cases i <;> cases m <;> cases s
  case false.false.false => exact ⟨[], List.forall_mem_nil _, fun rest => .refl _ _ _⟩
  all_goals
    refine ⟨[switched], fun part hpart => List.mem_singleton.mp hpart, fun rest => ?_⟩
    simp only [Flags.inlineGroup, Flags.matching, List.filter_cons, List.filter_nil, Flags.has,
      Flag.letter, Bool.false_eq_true, reduceIte, List.map_cons, List.map_nil, String.ofList_cons,
      String.reduceSingleton, String.ofList_nil, String.append_empty, String.reduceAppend,
      String.reduceToList, List.cons_append, List.nil_append]
    refine leads_of_readElement rfl (by simp only [List.length_cons]; omega) ?_
    rfl

theorem leads_branch_dotCaret (progress : Progress) (wrap : Bool)
    (hplain : progress.modes.verbose = false) (hunicode : progress.modes.unicode = true) :
    ∃ parts, (joinParts parts).node = .seq (.set progress.modes.dot) (.look progress.modes.caret) ∧
      ∀ rest, Leads readElements progress (Item.branch wrap ['.', '^'] ++ rest)
        { progress with
          branches := { progress.branches with parts := parts ++ progress.branches.parts } }
        rest := by
  let dot : Part := { node := .set progress.modes.dot, depth := 0 }
  let caret : Part := { node := .look progress.modes.caret, depth := 0 }
  suffices hinner : ∀ (state : Progress) (rest : List Char), state.modes = progress.modes →
      Leads readElements state (['.', '^'] ++ rest)
        { state with
          branches := { state.branches with parts := [caret, dot] ++ state.branches.parts } }
        rest from leads_branch progress wrap hplain hinner
  intro state rest hmodes
  have hdot : readElement state ('.' :: '^' :: rest) = some (state.add dot, '^' :: rest) := by
    simp [readElement, hmodes, hunicode, Progress.addLeaf, dot]
  have hcaret : readElement (state.add dot) ('^' :: rest) =
      some ((state.add dot).add caret, rest) := by
    simp [readElement, hmodes, Progress.addLeaf, Progress.add, caret]
  have hskip {c : Char} {input : List Char} : state.modes.skip (c :: input) = c :: input :=
    skip_of_plain (by rw [hmodes, hplain]) _
  exact (leads_of_readElement hskip (by simp) hdot).trans
    (leads_of_readElement hskip (Nat.le_refl _) hcaret)

/-- With a dot before a caret as another alternative, a self-contained text is read as it is
    without it. -/
theorem exists_nodes (hbody : reader.SelfContained flags.modes body)
    (hparse : parse? (flags.inlineGroup.toList ++ Item.anchored start stop body) = some a)
    (hlonger : parse? (flags.inlineGroup.toList ++
      Item.anchored start stop (body ++ '|' :: Item.branch wrap ['.', '^'])) = some longer) :
    ∃ before nodes after, nodes ≠ [] ∧ a = seqs (before ++ alts nodes :: after) ∧
      longer = seqs (before ++
        alts (nodes ++ [.seq (.set flags.modes.dot) (.look flags.modes.caret)]) :: after) := by
  obtain ⟨before, _, hinline⟩ := exists_leads_inlineGroup flags
  have hopened (text : List Char) := (hinline (Item.anchored start stop text)).trans
    (leads_opened before start stop (by rfl) text)
  obtain ⟨last, hmodes, hgroups, hlast⟩ := hbody (opened before start flags.modes) rfl rfl
  change last.modes = flags.modes at hmodes
  change last.enclosing = (opened before start flags.modes).enclosing at hgroups
  rw [reader_read] at hlast
  obtain ⟨whole, hread, _⟩ := Option.bind_eq_some_iff.mp hparse
  have hshort := hopened body
  have hclosed := hshort.trans (hlast _ (.inr rfl) _ whole (readElements_of_leads hshort hread))
  have ha := eq_framed_of_parse? rfl hclosed hgroups hparse
  obtain ⟨wholeLonger, hreadLonger, _⟩ := Option.bind_eq_some_iff.mp hlonger
  have hlong := hopened (body ++ '|' :: Item.branch wrap ['.', '^'])
  rw [List.append_assoc, List.cons_append] at hlong
  have hbar : Leads readElements (opened before start flags.modes) _ (reader.next last) _ :=
    (hlast _ (.inl rfl) _ wholeLonger (readElements_of_leads hlong hreadLonger)).trans
      (reader.leads_bar last _)
  have hnext : (reader.next last).modes = flags.modes := hmodes
  obtain ⟨parts, hparts, hbranch⟩ := leads_branch_dotCaret (reader.next last) wrap
    (by rw [hnext]; rfl) (by rw [hnext]; rfl)
  have hlongerNodes := eq_framed_of_parse? rfl ((hlong.trans hbar).trans (hbranch _)) hgroups
    hlonger
  have hnodes : Branches.nodes ⟨(reader.next last).branches.done, parts ++ []⟩ =
      last.branches.nodes ++ [.seq (.set flags.modes.dot) (.look flags.modes.caret)] := by
    simp [reader, Branches.nodes, Branches.next, hparts, hmodes]
  refine ⟨before.reverse.map Part.node ++ anchor start flags.modes.caret, last.branches.nodes,
    anchor stop flags.modes.dollar, by simp [Branches.nodes], ?_, ?_⟩
  · rw [ha, List.append_assoc]
  · rw [hlongerNodes, List.append_assoc, ← hnodes]
    rfl

/-- A self-contained text matches with a dot before a caret as another alternative what it matches
    without it. -/
theorem isMatch_or_dotCaret (hone : ¬ (flags.multiLine = true ∧ flags.dotAll = true))
    (hbody : reader.SelfContained flags.modes body)
    (hparse : parse? (flags.inlineGroup.toList ++ Item.anchored start stop body) = some a)
    (hlonger : parse? (flags.inlineGroup.toList ++
      Item.anchored start stop (body ++ '|' :: Item.branch wrap ['.', '^'])) = some longer) :
    longer.isMatch text = a.isMatch text := by
  obtain ⟨before, nodes, after, hnodes, rfl, rfl⟩ := exists_nodes hbody hparse hlonger
  have hlast (starts : List Nat) :
      (Regular.seq (.set flags.modes.dot) (.look flags.modes.caret)).reach text starts = [] :=
    reach_dot_caret hone starts
  have hreach := reach_alts_concat hnodes hlast
  simp only [isMatch, reach_seqs_append, reach_seqs_cons, hreach]

end Patternwork.Regular
