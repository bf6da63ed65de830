import Patternwork.Proofs.Backtrack.Reading.Listed
import Patternwork.Proofs.Regular.Reading.Limits

namespace Patternwork.Backtrack

variable {flags : Flags} {body : List Char} {start stop : Bool} {modes : Modes} {a : Tree}
  {reading alone : Reading} {fuel rounds limit : Nat} {last whole : Progress}

theorem around_opened (start stop : Bool) (modes : Modes) :
    Around plainTails (opened start modes).enclosing (if stop then ['$'] else []) where
  room := by simp [opened, nestLimit]
  allowed := by cases stop <;> simp [plainTails, Plain]

/-- A text whose groups are closed is read on its own behind flags. -/
theorem read?_of_readElements_modes (hrepeated : ¬ FlagsRepeated flags body)
    (hread : readElements fuel { modes := flags.modes } body = some last)
    (hclosed : last.enclosing = []) (hunmixed : last.mixed = false) :
    read? (flags.inlineGroup.toList ++ body) =
      some
        { tree := last.branches.join
          groups := last.groups
          loops := last.loops
          referenced := last.referenced } :=
  read?_eq_some_iff.mpr ⟨last, readElements_of_length_lt
    (readElements_inlineGroup_of_read hrepeated hread) (Nat.lt_succ_self _),
    hclosed, Progress.inner?_of_unmixed hunmixed, rfl, rfl, rfl⟩

/-- What is read between anchors is read on its own, unless it closes the group that is put around
    it or flags stand before a quantifier. -/
theorem read?_of_anchored
    (hread : read? (flags.inlineGroup.toList ++ Item.anchored start stop body) = some reading) :
    (∃ alone, read? (flags.inlineGroup.toList ++ body) = some alone ∧
        reading = { alone with tree := framedTree start stop flags.modes alone.tree }) ∨
      ClosesOuter { modes := flags.modes } body ∨ FlagsRepeated flags body := by
  obtain ⟨whole, helements, hgives⟩ := read?_eq_some_iff.mp hread
  have haround := around_opened start stop flags.modes
  have hinside : readInside (opened start flags.modes).enclosing (if stop then ['$'] else []) _
      { modes := flags.modes } body = some whole := readElements_opened helements
  have hcount : (if stop then ['$'] else []).count ')' = 0 := by cases stop <;> rfl
  have hwhole : whole.enclosing.length = 0 := by rw [hgives.closed, List.length_nil]
  have houter : (opened start flags.modes).enclosing.length = 1 := rfl
  rcases exists_readElements_or_closesOuter haround hinside (by omega) with
    ⟨last, hlast⟩ | hcloses
  · rcases kept_or_lost hlast with ⟨_, _, _, _, hkept⟩ | hlost
    · obtain ⟨_, hclose⟩ := hkept.readElements_close haround hinside
      have hgroups := length_le_of_readElements hclose
      rw [last.length_inside, List.count_cons_self] at hgroups
      have hclosed : last.enclosing = [] := List.length_eq_zero_iff.mp (by omega)
      rw [last.inside_nil hclosed] at hclose
      obtain ⟨hunmixed, hreading⟩ := eq_framed_of_closed (by rfl) hclose hgives
      by_cases hrepeated : FlagsRepeated flags body
      · exact .inr (.inr hrepeated)
      · refine .inl ⟨_, read?_of_readElements_modes hrepeated hlast hclosed hunmixed, ?_⟩
        rw [hreading, ← join_eq_alternation]
    · have hlength := hlost.opened haround hinside
      omega
  · exact .inr (.inl hcloses)

/-- A text that is read on its own closes no group but those that it opened. -/
theorem not_closesOuter (halone : read? (flags.inlineGroup.toList ++ body) = some alone) :
    ¬ ClosesOuter { modes := flags.modes } body := by
  rintro ⟨_, _, _, _, hreads, hgroups, hclose⟩
  obtain ⟨_, helements, _⟩ := read?_eq_some_iff.mp halone
  have hrest := hreads.readElements_after (readElements_inlineGroup helements)
  rw [readElements_of_close hgroups hclose] at hrest
  cases hrest

/-- A text whose alternatives, if there are any, do not both give names to groups and refer to
    groups by numbers. -/
def Unmixed (flags : Flags) (text : List Char) : Prop :=
  ∀ last ∈ readElements (text.length + 1) { modes := flags.modes } text, last.mixed = false

/-- What is read on its own, in few enough groups, is read between anchors, unless it ends in a
    comment or mixes names and numbers. -/
theorem read?_anchored_or_lost (start stop : Bool)
    (halone : read? (flags.inlineGroup.toList ++ body) = some alone)
    (hnesting : nesting (body.length + 1) { modes := flags.modes } body + 2 < nestLimit)
    (hunmixed : Unmixed flags body) :
    read? (flags.inlineGroup.toList ++ Item.anchored start stop body) =
        some { alone with tree := framedTree start stop flags.modes alone.tree } ∨
      read? (flags.inlineGroup.toList ++ (body ++ [')'])) = some alone := by
  obtain ⟨last, helements, hgives⟩ := read?_eq_some_iff.mp halone
  have hlast := readElements_of_length_lt (readElements_inlineGroup helements)
    (Nat.lt_add_one body.length)
  rcases kept_or_lost hlast with ⟨rounds, limit, hrounds, hlimit, hkept⟩ | hlost
  · have hinside : ReadInside flags body alone 1 rounds last :=
      .of_kept hkept hgives (by rw [List.length_append]; omega) (by omega)
    exact .inl (read?_framed start stop ⟨rounds, last, hinside, hunmixed last hlast⟩)
  · have hplain : Plain [] := by simp [Plain]
    have hclose := hlost.closed hgives.closed hplain
    exact .inr (read?_eq_some_iff.mpr ⟨last, readElements_of_length_lt
      (readElements_inlineGroup_of_read (not_flagsRepeated_append helements hplain) hclose)
      (Nat.lt_succ_self _), hgives⟩)

/-- Anchors take little room. -/
theorem size_anchored (start stop : Bool) (modes : Modes) (parts : List Regular) :
    (Regular.seqs parts).size ≤
        (Regular.seqs (Regular.anchor start modes.caret ++
          (parts ++ Regular.anchor stop modes.dollar))).size ∧
      (Regular.seqs (Regular.anchor start modes.caret ++
          (parts ++ Regular.anchor stop modes.dollar))).size ≤ (Regular.seqs parts).size + 64 := by
  have hanchor (called : Bool) (condition : Look) :
      ((Regular.anchor called condition).map Regular.size).sum ≤ 32 := by
    cases called <;> simp [Regular.anchor, Regular.size]
  have hstart := hanchor start modes.caret
  have hstop := hanchor stop modes.dollar
  cases parts with
  | nil => cases start <;> cases stop <;> simp [Regular.anchor, Regular.seqs, Regular.size]
  | cons first rest =>
    rw [Regular.size_seqs (List.cons_ne_nil _ _), Regular.size_seqs (by simp)]
    simp only [List.map_append, List.sum_append]
    omega

namespace Plan

variable {plan : Plan}

/-- There is room for anchors in the automaton for a pattern that is handed over as a whole. -/
def hasRoom : Plan → Bool
  | regular a => a.size + 64 ≤ Regular.sizeLimit
  | program .. => true

theorem ofReading?_of_hard (hhard : reading.tree.isHard reading.referenced = true) :
    ofReading? reading =
      (compile? reading.referenced (groupSlots reading) .every reading.tree).map fun code =>
        .program (searching code) (groupSlots reading + reading.loops) := by
  rw [ofReading?, if_pos hhard]

theorem ofReading?_eq_some_of_plain (hplain : reading.tree.isHard reading.referenced = false) :
    ofReading? reading = some plan ↔
      ∃ a, reading.tree.regular? = some a ∧ a.size ≤ Regular.sizeLimit ∧ plan = .regular a := by
  rw [ofReading?, hplain]
  cases reading.tree.regular? with
  | none => simp
  | some a => simp [Regular.fits, eq_comm]

/-- What is accepted between anchors is accepted without. -/
theorem exists_of_framed
    (hplan : ofReading? { alone with tree := framedTree start stop modes alone.tree } = some plan) :
    ∃ other, ofReading? alone = some other := by
  have hframed : (framedTree start stop modes alone.tree).isHard alone.referenced =
      alone.tree.isHard alone.referenced := isHard_framedTree
  cases hhard : alone.tree.isHard alone.referenced with
  | true =>
    rw [hhard] at hframed
    rw [ofReading?_of_hard hframed, compile?_framedTree hhard] at hplan
    obtain ⟨_, hcode, _⟩ := Option.map_eq_some_iff.mp hplan
    obtain ⟨inner, hinner, _⟩ := Option.map_eq_some_iff.mp hcode
    rw [ofReading?_of_hard hhard]
    exact ⟨_, Option.map_eq_some_iff.mpr ⟨inner, hinner, rfl⟩⟩
  | false =>
    rw [hhard] at hframed
    obtain ⟨_, hwhole, hsize, _⟩ := (ofReading?_eq_some_of_plain hframed).mp hplan
    obtain ⟨parts, hparts, rfl⟩ := of_regular?_framedTree hwhole
    have hless := (size_anchored start stop modes parts).1
    exact ⟨_, (ofReading?_eq_some_of_plain hhard).mpr
      ⟨_, hparts, Nat.le_trans hless hsize, rfl⟩⟩

/-- What is accepted without anchors is accepted between them, if there is room for them. -/
theorem exists_framed (start stop : Bool) (modes : Modes) (hplan : ofReading? alone = some plan)
    (hroom : plan.hasRoom = true) :
    ∃ framed, ofReading? { alone with tree := framedTree start stop modes alone.tree } =
      some framed := by
  have hframed : (framedTree start stop modes alone.tree).isHard alone.referenced =
      alone.tree.isHard alone.referenced := isHard_framedTree
  cases hhard : alone.tree.isHard alone.referenced with
  | true =>
    rw [hhard] at hframed
    rw [ofReading?_of_hard hhard] at hplan
    obtain ⟨inner, hinner, _⟩ := Option.map_eq_some_iff.mp hplan
    rw [ofReading?_of_hard hframed, compile?_framedTree hhard]
    exact ⟨_, Option.map_eq_some_iff.mpr ⟨_, Option.map_eq_some_iff.mpr ⟨inner, hinner, rfl⟩, rfl⟩⟩
  | false =>
    rw [hhard] at hframed
    obtain ⟨_, hwhole, _, rfl⟩ := (ofReading?_eq_some_of_plain hhard).mp hplan
    rw [regular?_eq_seqs] at hwhole
    obtain ⟨parts, hparts, rfl⟩ := Option.map_eq_some_iff.mp hwhole
    have hless := (size_anchored start stop modes parts).2
    have hsize : (Regular.seqs parts).size + 64 ≤ Regular.sizeLimit := of_decide_eq_true hroom
    refine ⟨_, (ofReading?_eq_some_of_plain hframed).mpr
      ⟨_, ?_, Nat.le_trans hless hsize, rfl⟩⟩
    dsimp only
    rw [regular?_framedTree, hparts]
    rfl

/-- A text that is accepted between anchors is accepted on its own, unless it closes the group that
    is put around it or flags stand before a quantifier. -/
theorem parse?_of_anchored
    (hparse : parse? (flags.inlineGroup.toList ++ Item.anchored start stop body) = some plan) :
    (∃ other, parse? (flags.inlineGroup.toList ++ body) = some other) ∨
      ClosesOuter { modes := flags.modes } body ∨ FlagsRepeated flags body := by
  obtain ⟨reading, hread, hplan⟩ := Option.bind_eq_some_iff.mp hparse
  rcases read?_of_anchored hread with ⟨alone, halone, rfl⟩ | hexcept
  · obtain ⟨other, hother⟩ := exists_of_framed hplan
    exact .inl ⟨other, Option.bind_eq_some_iff.mpr ⟨alone, halone, hother⟩⟩
  · exact .inr hexcept

end Plan

/-- A text that opens so few groups at once, and needs so small an automaton, that there is room for
    a group and anchors around it. -/
def WellWithin (flags : Flags) (text : List Char) : Prop :=
  nesting (text.length + 1) { modes := flags.modes } text + 2 < nestLimit ∧
    ∀ plan ∈ Plan.parse? (flags.inlineGroup.toList ++ text), plan.hasRoom = true

instance (flags : Flags) (text : List Char) : Decidable (WellWithin flags text) :=
  inferInstanceAs (Decidable (_ ∧ ∀ plan ∈ Plan.parse? _, _))

instance (flags : Flags) (text : List Char) : Decidable (Unmixed flags text) :=
  inferInstanceAs (Decidable (∀ last ∈ readElements _ _ _, _))

/-- A text that is accepted on its own, well within the limits, is accepted between anchors, unless
    it ends in a comment, which passes over a parenthesis after it, or mixes names and numbers. -/
theorem Plan.parse?_anchored {plan : Plan} (start stop : Bool)
    (hparse : parse? (flags.inlineGroup.toList ++ body) = some plan)
    (hwithin : WellWithin flags body) (hunmixed : Unmixed flags body)
    (hcomment : parse? (flags.inlineGroup.toList ++ (body ++ [')'])) = none) :
    ∃ framed, parse? (flags.inlineGroup.toList ++ Item.anchored start stop body) = some framed := by
  obtain ⟨alone, halone, hplan⟩ := Option.bind_eq_some_iff.mp hparse
  rcases read?_anchored_or_lost start stop halone hwithin.1 hunmixed with hread | hlost
  · obtain ⟨framed, hframed⟩ :=
      exists_framed start stop flags.modes hplan (hwithin.2 plan hparse)
    exact ⟨framed, Option.bind_eq_some_iff.mpr ⟨_, hread, hframed⟩⟩
  · rw [parse?, hlost, Option.bind_some, hplan] at hcomment
    cases hcomment

end Patternwork.Backtrack
