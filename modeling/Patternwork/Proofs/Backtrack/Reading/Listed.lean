import Patternwork.Proofs.Backtrack.Neutral
import Patternwork.Proofs.Backtrack.Reading.Literal
import Patternwork.Proofs.Notation.SelfContained

namespace Patternwork.Backtrack

variable {progress last whole : Progress} {modes : Modes} {flags : Flags} {start stop wrap : Bool}
  {body rest : List Char} {fuel : Nat} {reading : Reading}

/-- The notation with look-around, as far as alternatives go. -/
def reader : Reader Progress Enclosing where
  read := readElements
  modes := Progress.modes
  groups := Progress.enclosing
  next progress := { progress with branches := progress.branches.next }
  modes_next _ := rfl
  groups_next _ := rfl
  leads_bar _ _ := leads_of_readNext (Nat.lt_succ_self _)
    (by simp [readNext, skip, skipIgnored, readElement])
  read_add := readElements_add

theorem reader_read : reader.read = readElements := rfl

theorem readElements_of_leads {input : List Char}
    (hleads : Leads readElements progress input last rest)
    (hread : readElements fuel progress input = some whole) :
    readElements fuel last rest = some whole := reader.read_of_leads hleads hread

theorem unquantified_of_endsBranch (hends : Reader.EndsBranch rest) : Unquantified rest := by
  intro c hc
  rcases hends with hbar | hclose
  · obtain rfl := Option.some.inj (hbar.symm.trans hc)
    decide
  · obtain rfl := Option.some.inj (hclose.symm.trans hc)
    decide

/-- A group without branches is refused where groups have names and are referred to by numbers. -/
theorem not_readElements_close_of_mixed (hmixed : progress.mixed = true)
    (hdone : progress.branches.done = []) (hgroups : progress.enclosing ≠ []) :
    readElements fuel progress (')' :: rest) ≠ some whole := by
  intro hread
  obtain ⟨outer, enclosing, hgroups⟩ := List.exists_cons_of_ne_nil hgroups
  have hskip : skip progress.modes (')' :: rest) = some (')' :: rest) := by simp [skip, skipIgnored]
  rcases readElements_cases hread with ⟨hend, _⟩ | ⟨_, _, _, _, hnext, _⟩
  · cases hskip.symm.trans hend
  · simp [readNext, hskip, readElement, closeGroup, hgroups,
      Progress.inner?_of_mixed hmixed hdone] at hnext

/-- A text that stands for itself is self-contained. -/
theorem selfContained_of_literal (wrap : Bool) {item : List Char}
    (hplain : modes.verbose = false) (hliteral : Literal item) :
    reader.SelfContained modes (Item.branch wrap item) := by
  intro (state : Progress) hmodes hgroups
  change state.modes = modes at hmodes
  change state.enclosing.length = 1 at hgroups
  have hverbose : state.modes.verbose = false := by rw [hmodes, hplain]
  have hroom : state.enclosing.length + 1 < nestLimit := by simp [hgroups, nestLimit]
  cases hmixed : state.mixed with
  | false =>
    obtain ⟨parts, _, hbranch⟩ := leads_branch_word state wrap hverbose hroom hmixed hliteral
    exact ⟨{ state with
        branches := { state.branches with parts := parts ++ state.branches.parts } },
      hmodes, rfl, fun rest hrest _ _ _ => hbranch rest (unquantified_of_endsBranch hrest)⟩
  | true =>
    cases wrap with
    | false =>
      exact ⟨{ state with
          branches :=
            { state.branches with
              parts := leaves state.modes item ++ state.branches.parts } },
        hmodes, rfl, fun rest hrest _ _ _ =>
          leads_word hverbose hliteral (unquantified_of_endsBranch hrest)⟩
    | true =>
      -- The text is refused, so it does not matter where its reading would lead.
      refine ⟨state, hmodes, rfl, fun rest hrest fuel whole hread => ?_⟩
      have htext : Item.branch true item ++ rest = '(' :: '?' :: ':' :: (item ++ ')' :: rest) := by
        simp [Item.branch]
      rw [htext] at hread
      have hopened := (Reads.single (readNext_scoped hroom _)).readElements_after hread
      have hclose := readElements_of_leads
        (leads_word (by exact hverbose) hliteral (unquantified_close rest)) hopened
      exact absurd hclose (not_readElements_close_of_mixed hmixed rfl (List.cons_ne_nil _ _))

/-- The state in which the alternatives between anchors are read. -/
def opened (start : Bool) (modes : Modes) : Progress :=
  { modes, enclosing := [⟨.scoped modes, { parts := anchorTrees start modes.caret }⟩] }

theorem readElements_opened
    (hread : readElements fuel {} (flags.inlineGroup.toList ++ Item.anchored start stop body) =
      some whole) :
    readElements fuel (opened start flags.modes) (body ++ ')' :: if stop then ['$'] else []) =
      some whole := by
  replace hread := readElements_inlineGroup hread
  have hgroup (parts : List Tree) : Reads 1 { modes := flags.modes, branches := { parts } }
      ('(' :: '?' :: ':' :: (body ++ ')' :: if stop then ['$'] else []))
      { modes := flags.modes, enclosing := [⟨.scoped flags.modes, { parts }⟩] }
      (body ++ ')' :: if stop then ['$'] else []) :=
    .single (readNext_scoped (by simp [nestLimit]) _)
  cases start with
  | false => exact (hgroup []).readElements_after hread
  | true =>
    exact (hgroup _).readElements_after
      ((Reads.single (readNext_caret ':' (by decide) _)).readElements_after hread)

/-- What is read of a text whose alternatives have been read. -/
theorem eq_of_closed (hgroups : last.enclosing = (opened start modes).enclosing)
    (hread : readElements fuel last (')' :: if stop then ['$'] else []) = some whole) :
    whole =
      { last with
        enclosing := []
        branches := { parts := anchorTrees stop modes.dollar ++
          (last.branches.join.asParts ++ anchorTrees start modes.caret) }
        modes } := by
  have hplain : Plain (if stop then ['$'] else []) := by cases stop <;> simp [Plain]
  have hstar : (if stop then ['$'] else []).head? ≠ some '*' := by cases stop <;> simp
  obtain ⟨inner, next, hinner, hclose, hread⟩ :=
    readElements_close hgroups (readAfter_of_plain _ hplain hstar) hread
  obtain rfl := inner?_eq_some hinner
  obtain rfl := Option.some.inj hclose
  rw [Progress.add_eq] at hread
  cases stop with
  | false => exact (readElements_nil hread).symm
  | true =>
    replace hread :=
      (Reads.single (readNext_dollar (by simp [Plain]) (by simp))).readElements_after hread
    exact (readElements_nil hread).symm

/-- The reading of a text whose alternatives have been read. -/
theorem eq_framed_of_closed (hgroups : last.enclosing = (opened start modes).enclosing)
    (hread : readElements fuel last (')' :: if stop then ['$'] else []) = some whole)
    (hgives : whole.Gives reading) :
    last.mixed = false ∧
      reading =
        { tree := framedTree start stop modes (alternation last.branches.trees)
          groups := last.groups
          loops := last.loops
          referenced := last.referenced } := by
  have hwhole := eq_of_closed hgroups hread
  constructor
  · refine Bool.eq_false_iff.mpr fun hmixed => ?_
    have hnone : whole.inner? = none :=
      Progress.inner?_of_mixed (by rw [hwhole]; exact hmixed) (by rw [hwhole])
    exact absurd hgives.tree (by simp [hnone])
  · rw [hgives.eq, hwhole, ← join_eq_alternation]
    rfl

theorem leads_dotCaret (hplain : progress.modes.verbose = false) (hrest : Unquantified rest) :
    Leads readElements progress ('.' :: '^' :: rest)
      { progress with
        branches :=
          { progress.branches with
            parts := .look progress.modes.caret :: .set progress.modes.dot ::
              progress.branches.parts } } rest := by
  have hdot : readNext progress ('.' :: '^' :: rest) =
      some (progress.add (.set progress.modes.dot), '^' :: rest) := by
    rw [readNext, skip_of_ne hplain (by decide), Option.bind_some]
    exact addQuantified_eq_add hplain (by rintro c ⟨rfl⟩; decide) _
  have hcaret : readNext (progress.add (.set progress.modes.dot)) ('^' :: rest) =
      some ((progress.add (.set progress.modes.dot)).add (.look progress.modes.caret), rest) := by
    rw [readNext, skip_of_ne (by exact hplain) (by decide), Option.bind_some]
    exact addQuantified_eq_add (by exact hplain) hrest _
  exact (leads_of_readNext (Nat.lt_succ_self _) hdot).trans
    (leads_of_readNext (Nat.lt_succ_self _) hcaret)

theorem leads_branch_dotCaret (progress : Progress) (wrap : Bool)
    (hplain : progress.modes.verbose = false)
    (hroom : progress.enclosing.length + 1 < nestLimit)
    (hunmixed : progress.mixed = false) :
    ∃ parts, joinParts parts = dotCaretTree progress.modes ∧ ∀ rest, Unquantified rest →
      Leads readElements progress (Item.branch wrap ['.', '^'] ++ rest)
        { progress with
          branches := { progress.branches with parts := parts ++ progress.branches.parts } }
        rest := by
  have hinner : ∀ (state : Progress) (rest : List Char), state.modes = progress.modes →
      Unquantified rest → Leads readElements state (['.', '^'] ++ rest)
        { state with
          branches :=
            { state.branches with
              parts := [.look progress.modes.caret, .set progress.modes.dot] ++
                state.branches.parts } } rest := by
    intro state rest hmodes hrest
    rw [← hmodes]
    exact leads_dotCaret (by rw [hmodes, hplain]) hrest
  exact leads_branch progress wrap hplain hroom hunmixed hinner

/-- With a dot before a caret as another alternative, a self-contained text is read as it is
    without it. -/
theorem exists_readings {longer : Reading} (hbody : reader.SelfContained flags.modes body)
    (hread : read? (flags.inlineGroup.toList ++ Item.anchored start stop body) = some reading)
    (hlonger : read? (flags.inlineGroup.toList ++
      Item.anchored start stop (body ++ '|' :: Item.branch wrap ['.', '^'])) = some longer) :
    ∃ trees ≠ [], reading.tree = framedTree start stop flags.modes (alternation trees) ∧
      longer =
        { reading with
          tree := framedTree start stop flags.modes
            (alternation (trees ++ [dotCaretTree flags.modes])) } := by
  obtain ⟨whole, helements, hgives⟩ := read?_eq_some_iff.mp hread
  obtain ⟨wholeLonger, helementsLonger, hgivesLonger⟩ := read?_eq_some_iff.mp hlonger
  obtain ⟨last, hmodes, hgroups, hlast⟩ := hbody (opened start flags.modes) rfl rfl
  change last.modes = flags.modes at hmodes
  change last.enclosing = (opened start flags.modes).enclosing at hgroups
  rw [reader_read] at hlast
  have hopened := readElements_opened helements
  have hclosed := readElements_of_leads (hlast _ (.inr rfl) _ whole hopened) hopened
  obtain ⟨hunmixed, hreading⟩ := eq_framed_of_closed hgroups hclosed hgives
  have hopenedLonger := readElements_opened helementsLonger
  rw [List.append_assoc, List.cons_append] at hopenedLonger
  have hbar : Leads readElements (opened start flags.modes) _ (reader.next last) _ :=
    (hlast _ (.inl rfl) _ wholeLonger hopenedLonger).trans (reader.leads_bar last _)
  have hplain : last.modes.verbose = false := by rw [hmodes]; rfl
  have hroom : (reader.next last).enclosing.length + 1 < nestLimit := by
    simp [show (reader.next last).enclosing = _ from hgroups, opened, nestLimit]
  obtain ⟨parts, hparts, hbranch⟩ := leads_branch_dotCaret (reader.next last) wrap hplain hroom
    hunmixed
  have hclosedLonger := readElements_of_leads
    (hbar.trans (hbranch _ (unquantified_close _))) hopenedLonger
  obtain ⟨_, hlongerReading⟩ := eq_framed_of_closed (by exact hgroups) hclosedLonger hgivesLonger
  have htrees : Branches.trees ⟨(reader.next last).branches.done, parts ++ []⟩ =
      last.branches.trees ++ [dotCaretTree flags.modes] := by
    simp [reader, Branches.trees, Branches.next, hparts, hmodes]
  refine ⟨last.branches.trees, ?_, ?_, ?_⟩
  · simp [Branches.trees]
  · rw [hreading]
  · rw [hlongerReading, hreading, ← htrees]
    rfl

/-- A self-contained text matches with a dot before a caret as another alternative what it matches
    without it. -/
theorem outcome_or_dotCaret_iff {plan longer : Plan} {text : Haystack}
    (hone : ¬ (flags.multiLine = true ∧ flags.dotAll = true))
    (hbody : reader.SelfContained flags.modes body)
    (hplan : Plan.parse? (flags.inlineGroup.toList ++ Item.anchored start stop body) = some plan)
    (hlonger : Plan.parse? (flags.inlineGroup.toList ++
      Item.anchored start stop (body ++ '|' :: Item.branch wrap ['.', '^'])) = some longer)
    (hends : plan.outcome text ≠ .aborted) (hendsLonger : longer.outcome text ≠ .aborted) :
    longer.outcome text = .matched ↔ plan.outcome text = .matched := by
  obtain ⟨reading, hread, hplan⟩ := Option.bind_eq_some_iff.mp hplan
  obtain ⟨_, hreadLonger, hlonger⟩ := Option.bind_eq_some_iff.mp hlonger
  obtain ⟨trees, htrees, htree, rfl⟩ := exists_readings hbody hread hreadLonger
  have hwithin := read?_within hread
  have hwithinLonger := read?_within hreadLonger
  obtain ⟨tree, groups, loops, referenced⟩ := reading
  obtain rfl : tree = _ := htree
  exact outcome_concat_dotCaret_iff hone htrees hwithin hwithinLonger hplan hlonger hends
    hendsLonger

end Patternwork.Backtrack
