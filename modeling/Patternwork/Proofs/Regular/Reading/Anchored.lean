import Patternwork.Proofs.Regular.Listed
import Patternwork.Proofs.Regular.Reading.Limits
import Patternwork.Proofs.Regular.Reading.Rounds

namespace Patternwork.Regular

variable {modes : Modes} {base p q last last' whole : Progress} {text body input : List Char}
  {before : List Part} {start stop : Bool} {inline : List Char} {b c : Branches} {part : Part}
  {fuel : Nat}

/-- The expression of a text, however deep it nests and however large it is. -/
def part? (text : List Char) : Option Part :=
  (readElements (text.length + 1) {} text).bind Progress.finish?

theorem parse?_eq (text : List Char) :
    parse? text = (part? text).bind fun part =>
      if part.depth ≤ nestLimit && part.node.fits then some part.node else none := by
  rw [part?, Option.bind_assoc]
  rfl

theorem parse?_eq_some_iff {a : Regular} :
    parse? text = some a ↔ ∃ part, part? text = some part ∧ part.depth ≤ nestLimit ∧
      part.node.size ≤ sizeLimit ∧ part.node = a := by
  rw [parse?_eq, Option.bind_eq_some_iff]
  simp only [Option.ite_none_right_eq_some, Bool.and_eq_true, decide_eq_true_eq, fits,
    Option.some.injEq, and_assoc]

theorem part?_of_leads (hleads : Leads readElements {} text last [])
    (hgroups : last.enclosing = []) : part? text = some last.branches.join := by
  rw [part?, hleads.read_eq fun fuel => readElements_nil fuel last, Option.bind_some,
    Progress.finish?, hgroups]

/-- Each group that is closed takes a parenthesis. -/
theorem length_le_of_readElements (hread : readElements fuel p input = some whole) :
    p.enclosing.length ≤ whole.enclosing.length + input.count ')' := by
  induction fuel generalizing p input with
  | zero => cases hread
  | succ fuel ih =>
    have hskipCount := (p.modes.skip_suffix input).sublist.count_le ')'
    by_cases hskip : p.modes.skip input = []
    · rw [readElements, hskip] at hread
      obtain rfl := Option.some.inj hread
      exact Nat.le_add_right ..
    · cases htoken : readToken p.modes (p.modes.skip input) with
      | none => simp [readElements_of_readToken_eq_none hskip htoken] at hread
      | some read =>
        obtain ⟨token, rest⟩ := read
        rw [readElements_of_token htoken] at hread
        obtain ⟨next, hnext, hread⟩ := Option.bind_eq_some_iff.mp hread
        have hrest := ih hread
        have hsuffix := ((lexeme_readToken p.modes).suffix htoken).sublist.count_le ')'
        by_cases hclose : token = .close
        · subst hclose
          have hcount := congrArg (List.count ')') (eq_of_readToken_close htoken)
          rw [List.count_cons_self] at hcount
          have hgroups : p.enclosing.length = next.enclosing.length + 1 := by
            simp only [Token.act?, Progress.closeGroup?] at hnext
            split at hnext
            · cases hnext
            next outer enclosing hgroups =>
              obtain rfl := Option.some.inj hnext
              simp [hgroups]
          omega
        · have := length_le_of_act hclose hnext
          omega

theorem Progress.After.length_eq (hafter : base.After p q) :
    q.enclosing.length = p.enclosing.length + base.enclosing.length := by
  cases hafter with
  | outside => simp
  | inside =>
    simp only [List.length_append, List.length_cons, List.length_nil]
    omega

theorem Progress.After.outside_iff (hafter : base.After p q) (hgroups : p.enclosing = []) :
    q.enclosing = base.enclosing ∧ base.branches.After p.branches q.branches := by
  cases hafter with
  | outside hbranches => exact ⟨rfl, hbranches⟩
  | inside => simp at hgroups

/-- Branches after nothing are the same. -/
theorem Branches.After.eq_of_empty (hafter : Branches.After {} b c) : c = b := by
  cases hafter <;> simp

/-- The parts of a text between anchors, latest first. -/
def framed (before : List Part) (start stop : Bool) (modes : Modes) (inner : Branches) :
    List Part :=
  anchorParts stop modes.dollar ++ groupPart inner :: (anchorParts start modes.caret ++ before)

theorem part?_anchored (hplain : modes.verbose = false)
    (hleads : Leads readElements {} text last (')' :: if stop then ['$'] else []))
    (hgroups : last.enclosing = (opened before start modes).enclosing) :
    part? text = some (joinParts (framed before start stop modes last.branches)) :=
  part?_of_leads ((hleads.trans (leads_close hgroups _)).trans (leads_dollar _ hplain stop)) rfl

theorem depth_of_mem_anchorParts {called : Bool} {condition : Look}
    (hpart : part ∈ anchorParts called condition) : part.depth = 0 := by
  cases called with
  | false => cases hpart
  | true =>
    obtain rfl := List.mem_singleton.mp hpart
    rfl

theorem totalSize_anchorParts (called : Bool) (condition : Look) :
    totalSize (anchorParts called condition) ≤ 32 := by
  cases called <;> simp [totalSize, anchorParts, anchor, size]

/-- Between anchors an expression nests one level deeper, or two. -/
theorem depth_framed (start stop : Bool) (modes : Modes) (hbefore : Switched before)
    (inner : Branches) :
    inner.join.depth + 1 ≤ (joinParts (framed before start stop modes inner)).depth ∧
      (joinParts (framed before start stop modes inner)).depth ≤ inner.join.depth + 2 := by
  constructor
  · have hmember : groupPart inner ∈ framed before start stop modes inner := by simp [framed]
    exact depth_le_joinParts hmember
  · refine depth_joinParts_le fun part hpart => ?_
    simp only [framed, List.mem_append, List.mem_cons] at hpart
    rcases hpart with hpart | rfl | hpart | hpart
    · simp [depth_of_mem_anchorParts hpart]
    · exact Nat.le_refl _
    · simp [depth_of_mem_anchorParts hpart]
    · simp [hbefore part hpart, switched]

theorem size_framed (before : List Part) (start stop : Bool) (modes : Modes) (inner : Branches) :
    inner.join.node.size + totalSize before ≤
        (joinParts (framed before start stop modes inner)).node.size ∧
      (joinParts (framed before start stop modes inner)).node.size ≤
        inner.join.node.size + totalSize before + 64 := by
  have hstop := totalSize_anchorParts stop modes.dollar
  have hstart := totalSize_anchorParts start modes.caret
  have hgroup (more : List Part) :
      totalSize (groupPart inner :: more) = inner.join.node.size + totalSize more := rfl
  rw [framed, size_joinParts (by simp), totalSize_append, hgroup, totalSize_append]
  omega

/-- A text that closes a group that it did not open. -/
def ClosesOuter (modes : Modes) (text : List Char) : Prop :=
  ∃ last rest, Leads readElements { modes } text last (')' :: rest) ∧ last.enclosing = []

theorem Switched.enclosed (start : Bool) (modes : Modes) :
    ∀ part ∈ (opened before start modes).branches.parts, part.repeatable = false :=
  List.forall_mem_nil _

/-- A text that is kept, with its groups closed, behind flags: on its own and between anchors. -/
theorem part?_of_kept (flags : Flags) (hkept : Kept { modes := flags.modes } body last)
    (hgroups : last.enclosing = []) :
    ∃ before c, Switched before ∧ Branches.After ⟨[], before⟩ last.branches c ∧
      part? (flags.inlineGroup.toList ++ body) = some c.join ∧
      ∀ start stop, part? (flags.inlineGroup.toList ++ Item.anchored start stop body) =
        some (joinParts (framed before start stop flags.modes last.branches)) := by
  obtain ⟨before, hbefore, hinline⟩ := exists_leads_inlineGroup flags
  let alone : Progress := { branches := { parts := before }, modes := flags.modes }
  obtain ⟨first, hfirst, haloneLeads, _⟩ :=
    (hkept.leads_or (.refl alone) hbefore.repeatable).resolve_right fun hnames => hnames.1 rfl
  obtain ⟨hfirstGroups, hbranches⟩ := hfirst.outside_iff hgroups
  refine ⟨before, first.branches, hbefore, hbranches,
    part?_of_leads ((hinline body).trans haloneLeads) hfirstGroups, fun start stop => ?_⟩
  obtain ⟨inner, hinner, _, hleads⟩ :=
    (hkept.leads_or (.refl (opened before start flags.modes)) (Switched.enclosed start flags.modes)
      ).resolve_right fun hnames => hnames.1 rfl
  obtain ⟨hinnerGroups, hinnerBranches⟩ := hinner.outside_iff hgroups
  rw [← hinnerBranches.eq_of_empty]
  exact part?_anchored rfl (((hinline _).trans (leads_opened before start stop rfl body)).trans
    (hleads _)) hinnerGroups

theorem eq_of_leads_nil (hleads : Leads readElements p input last [])
    (hread : readElements fuel p input = some whole) : whole = last := by
  replace hread := readElements_of_leads hleads hread
  cases fuel with
  | zero => cases hread
  | succ fuel =>
    rw [readElements_nil] at hread
    exact (Option.some.inj hread).symm

/-- Where no group is open, none is closed. -/
theorem readElements_close (hgroups : p.enclosing = []) (fuel : Nat) (rest : List Char) :
    readElements fuel p (')' :: rest) = none := by
  have hread : readToken p.modes (p.modes.skip (')' :: rest)) = some (.close, rest) := by
    rw [skip_cons _ (by decide) (by decide)]
    rfl
  refine readElements_of_act_eq_none hread ?_ fuel
  rw [Token.act?, Progress.closeGroup?, hgroups]

theorem groups_eq_nil_of_finish? (hfinish : whole.finish? = some part) : whole.enclosing = [] := by
  unfold Progress.finish? at hfinish
  split at hfinish
  · assumption
  · cases hfinish

theorem exists_kept_of_parse? {flags : Flags} {a : Regular}
    (hparse : parse? (flags.inlineGroup.toList ++ Item.anchored start stop body) = some a) :
    (∃ last, Kept { modes := flags.modes } body last ∧ last.enclosing = []) ∨
      ClosesOuter flags.modes body := by
  obtain ⟨before, hbefore, hinline⟩ := exists_leads_inlineGroup flags
  obtain ⟨part, hpart, _⟩ := parse?_eq_some_iff.mp hparse
  obtain ⟨whole, hread, hfinish⟩ := Option.bind_eq_some_iff.mp hpart
  have hwhole := groups_eq_nil_of_finish? hfinish
  have hopened := (hinline _).trans (leads_opened before start stop rfl body)
  replace hread := readElements_of_leads hopened hread
  have hcount : (if stop then ['$'] else []).count ')' = 0 := by cases stop <;> rfl
  have hline : '\n' ∉ if stop then ['$'] else [] := by cases stop <;> decide
  cases ends_of_after (Switched.enclosed start flags.modes) rfl
    (.refl (opened before start flags.modes)) body with
  | @kept last hkept =>
    obtain ⟨inner, hinner, _, hleads⟩ :=
      (hkept.leads_or (.refl (opened before start flags.modes))
        (Switched.enclosed start flags.modes)).resolve_right fun hnames => hnames.1 rfl
    have hle := length_le_of_readElements (readElements_of_leads (hleads _) hread)
    rw [hwhole, hinner.length_eq, List.count_cons_self, hcount] at hle
    refine .inl ⟨last, hkept, List.length_eq_zero_iff.mp ?_⟩
    simp only [opened, List.length_singleton, List.length_nil] at hle
    omega
  | lost hgroups _ _ hclose =>
    have hle := length_le_of_readElements (readElements_of_leads (hclose _ hline) hread)
    rw [hwhole] at hle
    exact absurd (Nat.le_trans hgroups hle) (by simp [opened])
  | failed _ hclose =>
    obtain ⟨_, state, rest, hsuffix, hgroups, hread⟩ := hclose _ hline _ _ hread
    have hle := length_le_of_readElements hread
    have hrest := hsuffix.sublist.count_le ')'
    rw [hwhole] at hle
    simp only [opened, List.length_singleton, List.length_nil] at hgroups hle
    omega
  | closes hgroups _ halone => exact .inr ⟨_, _, halone, hgroups⟩

/-- A text that is accepted between anchors is accepted on its own, unless it closes the group
    around it. -/
theorem parse?_of_anchored {flags : Flags} {a : Regular}
    (hparse : parse? (flags.inlineGroup.toList ++ Item.anchored start stop body) = some a) :
    (∃ b, parse? (flags.inlineGroup.toList ++ body) = some b) ∨
      ClosesOuter flags.modes body := by
  rcases exists_kept_of_parse? hparse with ⟨last, hkept, hgroups⟩ | hcloses
  · obtain ⟨before, c, hbefore, hafter, halone, hanchored⟩ := part?_of_kept flags hkept hgroups
    obtain ⟨part, hpart, hdepth, hsize, _⟩ := parse?_eq_some_iff.mp hparse
    obtain rfl := Option.some.inj ((hanchored start stop).symm.trans hpart)
    have hgrows := hafter.grows hbefore
    have hdeep := (depth_framed start stop flags.modes hbefore last.branches).1
    refine .inl ⟨_, parse?_eq_some_iff.mpr ⟨_, halone, ?_, ?_, rfl⟩⟩
    · have := hgrows.depth_grown_le
      omega
    · have := hgrows.size_grown_le
      have := (size_framed before start stop flags.modes last.branches).1
      omega
  · exact .inr hcloses

/-- A text that neither nests almost too deeply nor needs an automaton that is almost too large:
    there is room for a group and anchors around it. -/
def WellWithin (text : List Char) : Prop :=
  ∀ part ∈ part? text, part.depth + 2 ≤ nestLimit ∧ part.node.size + 96 ≤ sizeLimit

instance (text : List Char) : Decidable (WellWithin text) :=
  inferInstanceAs (Decidable (∀ part ∈ part? text, _))

/-- A text that is accepted on its own is kept, or it ends in a comment: a parenthesis after it is
    passed over. -/
theorem kept_or_lost {flags : Flags} {a : Regular}
    (hparse : parse? (flags.inlineGroup.toList ++ body) = some a) :
    (∃ last, Kept { modes := flags.modes } body last ∧ last.enclosing = []) ∨
      (∃ first, Leads readElements { modes := flags.modes } body first []) ∧
        parse? (flags.inlineGroup.toList ++ (body ++ [')'])) = some a := by
  obtain ⟨before, hbefore, hinline⟩ := exists_leads_inlineGroup flags
  let alone : Progress := { branches := { parts := before }, modes := flags.modes }
  obtain ⟨part, hpart, hlimits⟩ := parse?_eq_some_iff.mp hparse
  obtain ⟨whole, hread, hfinish⟩ := Option.bind_eq_some_iff.mp hpart
  have hwhole := groups_eq_nil_of_finish? hfinish
  replace hread := readElements_of_leads (hinline body) hread
  have hends : Ends alone { modes := flags.modes } alone body :=
    ends_of_after hbefore.repeatable rfl (.refl alone) body
  cases hends with
  | @kept last hkept =>
    obtain ⟨inner, hinner, hleads, _⟩ :=
      (hkept.leads_or (.refl alone) hbefore.repeatable).resolve_right fun hnames => hnames.1 rfl
    obtain rfl := eq_of_leads_nil hleads hread
    have hlength := hinner.length_eq
    rw [hwhole] at hlength
    exact .inl ⟨last, hkept, List.length_eq_zero_iff.mp hlength.symm⟩
  | lost _ hfirst halone hclose =>
    obtain rfl := eq_of_leads_nil halone hread
    have hclosed := part?_of_leads ((hinline _).trans (hclose [] (List.not_mem_nil))) hwhole
    obtain rfl := Option.some.inj
      ((part?_of_leads ((hinline body).trans halone) hwhole).symm.trans hpart)
    exact .inr ⟨⟨_, hfirst⟩, parse?_eq_some_iff.mpr ⟨_, hclosed, hlimits⟩⟩
  | failed halone => cases (halone _).symm.trans hread
  | closes hgroups hafter _ hleads =>
    replace hread := readElements_of_leads hleads hread
    rw [readElements_close (hafter.outside_iff hgroups).1] at hread
    cases hread

/-- A text that is accepted on its own closes no group but those that it opened. -/
theorem not_closesOuter {flags : Flags} {a : Regular}
    (hparse : parse? (flags.inlineGroup.toList ++ body) = some a) :
    ¬ ClosesOuter flags.modes body := by
  rintro ⟨last, rest, hleads, hgroups⟩
  have hread : ∃ first, Leads readElements { modes := flags.modes } body first [] := by
    rcases kept_or_lost hparse with ⟨_, hkept, _⟩ | ⟨hread, _⟩
    · obtain ⟨first, _, hread, _⟩ :=
        (hkept.leads_or (.refl { modes := flags.modes }) (List.forall_mem_nil _)).resolve_right
          fun hnames => hnames.1 rfl
      exact ⟨first, hread⟩
    · exact hread
  obtain ⟨first, hfirst⟩ := hread
  have hwhole := hfirst.read_eq fun fuel => readElements_nil fuel first
  replace hwhole := readElements_of_leads hleads hwhole
  rw [readElements_close hgroups] at hwhole
  cases hwhole

/-- A text that is accepted on its own, well within the limits, is accepted between anchors, unless
    it ends in a comment, which passes over a parenthesis after it. -/
theorem parse?_anchored {flags : Flags} {a : Regular}
    (hparse : parse? (flags.inlineGroup.toList ++ body) = some a)
    (hwithin : WellWithin (flags.inlineGroup.toList ++ body))
    (hcomment : parse? (flags.inlineGroup.toList ++ (body ++ [')'])) = none)
    (start stop : Bool) :
    ∃ b, parse? (flags.inlineGroup.toList ++ Item.anchored start stop body) = some b := by
  obtain ⟨last, hkept, hgroups⟩ := (kept_or_lost hparse).resolve_right fun hlost => by
    rw [hcomment] at hlost
    cases hlost.2
  obtain ⟨before, c, hbefore, hafter, halone, hanchored⟩ := part?_of_kept flags hkept hgroups
  have hgrows := hafter.grows hbefore
  have hdeep := (depth_framed start stop flags.modes hbefore last.branches).2
  have hlarge := (size_framed before start stop flags.modes last.branches).2
  obtain ⟨hdepth, hsize⟩ := hwithin _ halone
  refine ⟨_, parse?_eq_some_iff.mpr ⟨_, hanchored start stop, ?_, ?_, rfl⟩⟩
  · have := hgrows.depth_le
    omega
  · have := hgrows.size_add_le
    omega

end Patternwork.Regular
