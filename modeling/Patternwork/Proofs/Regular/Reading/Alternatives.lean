import Mathlib.Data.List.Forall2
import Mathlib.Tactic.Choose
import Patternwork.Proofs.Regular.Reading.Anchored

namespace Patternwork.Regular

variable {modes : Modes} {state last whole : Progress} {item rest : List Char}
  {items : List (List Char)} {node a : Regular} {nodes : List Regular} {fuel : Nat}
  {start stop : Bool} {flags : Flags} {text : Haystack}

/-- A text that is kept, with all its groups closed, and its expression. -/
def ReadsAs (modes : Modes) (item : List Char) (node : Regular) : Prop :=
  ∃ last, Kept { modes } item last ∧ last.enclosing = [] ∧ alts last.branches.nodes = node

/-- In a group of its own a text is read as one part. -/
theorem ReadsAs.leads_branch (hreads : ReadsAs state.modes item node)
    (hplain : state.modes.verbose = false)
    (hread : readElements fuel state (Item.branch true item ++ rest) = some whole) :
    ∃ part names, part.node = node ∧
      Leads readElements state (Item.branch true item ++ rest)
        { state with branches := state.branches.add part, names } rest := by
  obtain ⟨last, hkept, hgroups, rfl⟩ := hreads
  have htext : Item.branch true item ++ rest = '(' :: '?' :: ':' :: (item ++ ')' :: rest) := by
    simp [Item.branch]
  rw [htext] at hread ⊢
  have hinner := readElements_of_leads (leads_openGroup state hplain _) hread
  obtain ⟨inner, hafter, _, hleads⟩ :=
    (hkept.leads_or (.refl (state.openGroup state.modes false))
      (List.forall_mem_nil _)).resolve_right fun hnames => by
        cases (hnames.2 rest fuel).symm.trans hinner
  obtain ⟨hinnerGroups, hbranches⟩ := hafter.outside_iff hgroups
  refine ⟨groupPart inner.branches, inner.names, ?_,
    leads_group state hplain hinnerGroups (hleads rest)⟩
  rw [groupPart, join_node, hbranches.eq_of_empty]

theorem leads_alternatives (hreads : List.Forall₂ (ReadsAs modes) items nodes)
    (hitems : items ≠ []) (hmodes : state.modes = modes) (hplain : modes.verbose = false)
    (hparts : state.branches.parts = [])
    (hread : readElements fuel state (Item.branches true items ++ rest) = some whole) :
    ∃ read names, Branches.nodes read = state.branches.done.reverse.map Part.node ++ nodes ∧
      Leads readElements state (Item.branches true items ++ rest)
        { state with branches := read, names } rest := by
  induction hreads generalizing state with
  | nil => exact absurd rfl hitems
  | @cons item node more nodes hitem hmore ih =>
    subst hmodes
    cases hmore with
    | nil =>
      obtain ⟨part, names, rfl, hleads⟩ := hitem.leads_branch hplain hread
      refine ⟨_, names, ?_, hleads⟩
      simp [Branches.nodes, Branches.add, hparts, joinParts]
    | @cons other _ others _ hother hothers =>
      have htext : Item.branches true (item :: other :: others) ++ rest =
          Item.branch true item ++ '|' :: (Item.branches true (other :: others) ++ rest) := by
        simp [Item.branches]
      rw [htext] at hread ⊢
      obtain ⟨part, names, rfl, hleads⟩ := hitem.leads_branch hplain hread
      have hbar := hleads.trans (reader.leads_bar _ _)
      obtain ⟨read, given, hnodes, hrest⟩ :=
        ih (List.cons_ne_nil _ _) (by rfl) (by rfl) (readElements_of_leads hbar hread)
      refine ⟨read, given, ?_, hbar.trans hrest⟩
      simp [hnodes, reader, Branches.next, Branches.add, hparts, joinParts]

/-- A sequence with alternatives in it matches what it matches with one of them. -/
theorem isMatch_alternatives {before after : List Regular} (hnodes : nodes ≠ []) :
    (seqs (before ++ alts nodes :: after)).isMatch text = true ↔
      ∃ node ∈ nodes, (seqs (before ++ node :: after)).isMatch text = true := by
  have hreach (a : Regular) (p q : Nat) : q ∈ (seqs (before ++ a :: after)).reach text [p] ↔
      ∃ r ∈ (seqs before).reach text [p], ∃ s ∈ a.reach text [r], q ∈ (seqs after).reach text [s] := by
    rw [← List.singleton_append (l := after), mem_reach_seqs_append]
    simp only [mem_reach_seqs_append, seqs]
  have hne (reached : List Nat) : reached ≠ [] ↔ ∃ q, q ∈ reached :=
    ⟨List.exists_mem_of_ne_nil reached, fun hq => hq.elim fun _ => List.ne_nil_of_mem⟩
  simp only [isMatch_iff, hne, hreach, mem_reach_alts hnodes]
  constructor
  · rintro ⟨p, hp, q, r, hr, s, ⟨node, hnode, hs⟩, hq⟩
    exact ⟨node, hnode, p, hp, q, r, hr, s, hs, hq⟩
  · rintro ⟨node, hnode, p, hp, q, r, hr, s, hs, hq⟩
    exact ⟨p, hp, q, r, hr, s, ⟨node, hnode, hs⟩, hq⟩

/-- A text that is accepted on its own and between anchors is read as an expression. -/
theorem exists_readsAs {b : Regular} (halone : parse? (flags.inlineGroup.toList ++ item) = some b)
    (hsingle : parse? (flags.inlineGroup.toList ++ Item.anchored start stop item) = some a) :
    ∃ node, ReadsAs flags.modes item node := by
  obtain ⟨last, hkept, hgroups⟩ :=
    (exists_kept_of_parse? hsingle).resolve_right (not_closesOuter halone)
  exact ⟨_, last, hkept, hgroups, rfl⟩

section

variable {before : List Part}

/-- Between anchors a text is read as its expression between conditions. -/
theorem ReadsAs.eq_framed
    (hinline : ∀ rest, Leads readElements {} (flags.inlineGroup.toList ++ rest)
      { branches := { parts := before }, modes := flags.modes } rest)
    (hreads : ReadsAs flags.modes item node)
    (hparse : parse? (flags.inlineGroup.toList ++ Item.anchored start stop item) = some a) :
    a = seqs (before.reverse.map Part.node ++ anchor start flags.modes.caret ++
      node :: anchor stop flags.modes.dollar) := by
  obtain ⟨last, hkept, hgroups, rfl⟩ := hreads
  obtain ⟨inner, hafter, _, hleads⟩ :=
    (hkept.leads_or (.refl (opened before start flags.modes)) (List.forall_mem_nil _)
      ).resolve_right fun hnames => hnames.1 rfl
  obtain ⟨hinnerGroups, hbranches⟩ := hafter.outside_iff hgroups
  have hopened := (hinline _).trans (leads_opened before start stop rfl item)
  rw [eq_framed_of_parse? rfl (hopened.trans (hleads _)) hinnerGroups hparse,
    hbranches.eq_of_empty, List.append_assoc]

theorem eq_framed_of_alternatives
    (hinline : ∀ rest, Leads readElements {} (flags.inlineGroup.toList ++ rest)
      { branches := { parts := before }, modes := flags.modes } rest)
    (hitems : items ≠ []) (hreads : List.Forall₂ (ReadsAs flags.modes) items nodes)
    (hparse : parse? (flags.inlineGroup.toList ++
      Item.anchored start stop (Item.branches true items)) = some a) :
    a = seqs (before.reverse.map Part.node ++ anchor start flags.modes.caret ++
      alts nodes :: anchor stop flags.modes.dollar) := by
  have hopened := (hinline _).trans (leads_opened before start stop rfl (Item.branches true items))
  obtain ⟨whole, hread, _⟩ := Option.bind_eq_some_iff.mp hparse
  obtain ⟨read, names, hnodes, hleads⟩ := leads_alternatives hreads hitems (by rfl) rfl (by rfl)
    (readElements_of_leads hopened hread)
  have ha := eq_framed_of_parse? rfl (hopened.trans hleads) (by rfl) hparse
  rw [ha, hnodes, List.append_assoc]
  rfl

end

/-- Between anchors the alternatives match what one of them matches there. -/
theorem isMatch_branches_iff (hitems : items ≠ [])
    (halone : ∀ item ∈ items, ∃ b, parse? (flags.inlineGroup.toList ++ item) = some b)
    (hsingle : ∀ item ∈ items,
      ∃ b, parse? (flags.inlineGroup.toList ++ Item.anchored start stop item) = some b)
    (hparse : parse? (flags.inlineGroup.toList ++
      Item.anchored start stop (Item.branches true items)) = some a) (text : Haystack) :
    a.isMatch text = true ↔ ∃ item ∈ items, ∃ b,
      parse? (flags.inlineGroup.toList ++ Item.anchored start stop item) = some b ∧
        b.isMatch text = true := by
  obtain ⟨before, _, hinline⟩ := exists_leads_inlineGroup flags
  have hexists : ∀ item ∈ items, ∃ node, ReadsAs flags.modes item node := by
    intro item hitem
    obtain ⟨b, hb⟩ := halone item hitem
    obtain ⟨c, hc⟩ := hsingle item hitem
    exact exists_readsAs hb hc
  choose! node hnode using hexists
  have hreads : List.Forall₂ (ReadsAs flags.modes) items (items.map node) :=
    List.forall₂_map_right_iff.mpr (List.forall₂_same.mpr hnode)
  rw [eq_framed_of_alternatives hinline hitems hreads hparse,
    isMatch_alternatives (by simpa using hitems)]
  simp only [List.mem_map, exists_exists_and_eq_and]
  refine exists_congr fun item => and_congr_right fun hitem => ?_
  constructor
  · intro hmatch
    obtain ⟨b, hb⟩ := hsingle item hitem
    exact ⟨b, hb, by rwa [(hnode item hitem).eq_framed hinline hb]⟩
  · rintro ⟨b, hb, hmatch⟩
    rwa [(hnode item hitem).eq_framed hinline hb] at hmatch

end Patternwork.Regular
