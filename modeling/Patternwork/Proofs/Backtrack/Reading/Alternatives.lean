import Mathlib.Data.List.Forall2
import Patternwork.Proofs.Backtrack.Reading.Anchored
import Patternwork.Proofs.Backtrack.Reading.Renumbered

namespace Patternwork.Backtrack

variable {flags : Flags} {item rest : List Char} {items : List (List Char)} {alone : Reading}
  {alones : List Reading} {offset : Offset} {whole : Progress} {fuel : Nat} {start stop : Bool}

/-- A pattern that means the same wherever it stands: no comment begins in its text, it refers to
    no group, and if it needs no backtracking, nothing is repeated in it without an upper bound
    that can match nothing. -/
structure Movable (flags : Flags) (item : List Char) (alone : Reading) : Prop where
  plain : '#' ∉ item
  read : read? (flags.inlineGroup.toList ++ item) = some alone
  unreferenced : alone.referenced = []
  steady : alone.tree.isHard [] = true ∨ alone.tree.steady = true

/-- A text of which everything can be worked out is movable. -/
theorem exists_movable (hread : '#' ∉ item ∧
    (read? (flags.inlineGroup.toList ++ item)).any (fun alone =>
      alone.referenced.isEmpty && (alone.tree.isHard [] || alone.tree.steady)) = true) :
    ∃ alone, Movable flags item alone := by
  obtain ⟨alone, halone, hmovable⟩ := (Option.any_eq_true _ _).mp hread.2
  obtain ⟨hnone, hsteady⟩ := Bool.and_eq_true_iff.mp hmovable
  exact ⟨alone, hread.1, halone, List.isEmpty_iff.mp hnone, Bool.or_eq_true_iff.mp hsteady⟩

/-- What comes before a pattern that stands behind another one. -/
def Offset.past (offset : Offset) (alone : Reading) : Offset where
  groups := offset.groups + alone.groups
  loops := offset.loops + alone.loops

/-- Patterns one after the other, each with what comes before it. -/
def placed (offset : Offset) : List Reading → List (Offset × Reading)
  | [] => []
  | alone :: rest => (offset, alone) :: placed (offset.past alone) rest

/-- The tree of a pattern where it is placed. -/
def placedTree (found : Offset × Reading) : Tree := found.2.tree.renumber found.1

/-- Patterns as alternatives between anchors. -/
def joinedReading (start stop : Bool) (modes : Modes) (alones : List Reading) : Reading where
  tree := framedTree start stop modes (alternation ((placed ⟨0, 0⟩ alones).map placedTree))
  groups := (alones.foldl Offset.past ⟨0, 0⟩).groups
  loops := (alones.foldl Offset.past ⟨0, 0⟩).loops
  referenced := []

theorem placed_ne_nil (offset : Offset) (halones : alones ≠ []) : placed offset alones ≠ [] := by
  cases alones with
  | nil => exact absurd rfl halones
  | cons => exact List.cons_ne_nil _ _

/-- In a group of its own a movable pattern is read as one part, with the numbers that come next. -/
theorem Movable.readElements_branch (hmovable : Movable flags item alone)
    {enclosing : List Enclosing} {branches : Branches} {names : List (List Char × Nat)}
    (hroom : enclosing.length + 1 < nestLimit) (hrest : Unquantified rest)
    (hread : readElements fuel
      { modes := flags.modes, enclosing, branches, groups := offset.groups, loops := offset.loops,
        names } (Item.branch true item ++ rest) = some whole) :
    ∃ given, readElements fuel
      (({ modes := flags.modes, enclosing, branches, groups := (offset.past alone).groups,
          loops := (offset.past alone).loops, names := given } : Progress).add
        (placedTree (offset, alone))) rest = some whole := by
  obtain ⟨last, helements, hgives⟩ := read?_eq_some_iff.mp hmovable.read
  have hlast := readElements_inlineGroup helements
  have hnone : last.referenced = [] := hgives.referenced.trans hmovable.unreferenced
  obtain ⟨hnumbered, hplaced⟩ : last.numbered = false ∧
      readElements _ (({ modes := flags.modes } : Progress).renumber offset names) item =
        some (last.renumber offset names) := readElements_renumber rfl hlast hnone
  obtain ⟨rounds, limit, hkept⟩ := exists_kept hmovable.plain hplaced
  have htext : Item.branch true item ++ rest = '(' :: '?' :: ':' :: (item ++ ')' :: rest) := by
    simp [Item.branch]
  rw [htext] at hread
  have hopened := (Reads.single (readNext_scoped hroom _)).readElements_after hread
  have hinside : readInside (⟨.scoped flags.modes, branches⟩ :: enclosing) rest fuel
      (({ modes := flags.modes } : Progress).renumber offset names) item = some whole := by
    rw [readInside, Progress.inside_nil _ (by rfl)]
    simpa [Progress.renumber, Branches.renumber] using hopened
  have haround : Around allTails (⟨.scoped flags.modes, branches⟩ :: enclosing) rest :=
    ⟨hroom, trivial⟩
  obtain ⟨_, hclose⟩ := hkept.readElements_close haround hinside
  rw [Progress.inside_nil _ (by simp [Progress.renumber, hgives.closed])] at hclose
  have hafter (modes : Modes) : readAfter modes (some (.scoped flags.modes)) rest =
      some (none, rest) :=
    readRepetition_of_none (skip_of_unquantified rfl hrest)
      (readQuantifier_of_unquantified flags.modes hrest)
  obtain ⟨inner, next, hinner, hadded, hleft⟩ := readElements_close rfl (hafter _) hclose
  obtain rfl := inner?_eq_some hinner
  obtain rfl := Option.some.inj hadded
  have htree : last.branches.join = alone.tree := (inner?_eq_some hgives.tree).symm
  refine ⟨last.names.map (Prod.map id offset.group) ++ names, ?_⟩
  simpa [Progress.renumber, Branches.join_renumber, htree, hnumbered, hnone, hgives.groups,
    hgives.loops, placedTree, Offset.past, Nat.add_comm] using hleft

/-- Movable patterns are read as alternatives, each with the numbers that come next. -/
theorem readElements_branches (hmovable : List.Forall₂ (Movable flags) items alones)
    (hitems : items ≠ []) {enclosing : List Enclosing} {done : List Tree}
    {names : List (List Char × Nat)} (hroom : enclosing.length + 1 < nestLimit)
    (hrest : Unquantified rest)
    (hread : readElements fuel
      { modes := flags.modes, enclosing, branches := { done }, groups := offset.groups,
        loops := offset.loops, names } (Item.branches true items ++ rest) = some whole) :
    ∃ read given, Branches.trees read = done.reverse ++ (placed offset alones).map placedTree ∧
      readElements fuel
        { modes := flags.modes, enclosing, branches := read,
          groups := (alones.foldl Offset.past offset).groups,
          loops := (alones.foldl Offset.past offset).loops, names := given } rest = some whole := by
  induction hmovable generalizing offset done names with
  | nil => exact absurd rfl hitems
  | @cons item alone more others hitem hmore ih =>
    cases hmore with
    | nil =>
      obtain ⟨given, hleft⟩ := hitem.readElements_branch hroom hrest hread
      rw [Progress.add_eq, List.append_nil] at hleft
      exact ⟨_, given, by simp [Branches.trees, placed, joinParts_asParts], hleft⟩
    | @cons next other later readings hnext hlater =>
      have htext : Item.branches true (item :: next :: later) ++ rest =
          Item.branch true item ++ '|' :: (Item.branches true (next :: later) ++ rest) := by
        simp [Item.branches]
      rw [htext] at hread
      obtain ⟨given, hleft⟩ := hitem.readElements_branch hroom (unquantified_bar _) hread
      rw [Progress.add_eq, List.append_nil] at hleft
      have hbar := readElements_of_leads (reader.leads_bar _ _) hleft
      obtain ⟨read, last, htrees, hend⟩ := ih (List.cons_ne_nil _ _) hbar
      refine ⟨read, last, ?_, hend⟩
      simp [htrees, placed, joinParts_asParts]

/-- Movable patterns as alternatives between anchors are read as one part. -/
theorem eq_joinedReading {reading : Reading} (hmovable : List.Forall₂ (Movable flags) items alones)
    (hitems : items ≠ [])
    (hread : read? (flags.inlineGroup.toList ++
      Item.anchored start stop (Item.branches true items)) = some reading) :
    reading = joinedReading start stop flags.modes alones := by
  obtain ⟨whole, helements, hgives⟩ := read?_eq_some_iff.mp hread
  have hroom : (opened start flags.modes).enclosing.length + 1 < nestLimit := by
    simp [opened, nestLimit]
  have hopened : readElements _
      { modes := flags.modes, enclosing := (opened start flags.modes).enclosing,
        branches := { done := [] }, groups := (⟨0, 0⟩ : Offset).groups,
        loops := (⟨0, 0⟩ : Offset).loops, names := [] }
      (Item.branches true items ++ ')' :: if stop then ['$'] else []) = some whole :=
    readElements_opened helements
  obtain ⟨read, given, htrees, hend⟩ :=
    readElements_branches hmovable hitems hroom (unquantified_close _) hopened
  obtain ⟨_, hframed⟩ := eq_framed_of_closed (by rfl) hend hgives
  rw [hframed, htrees]
  rfl

end Patternwork.Backtrack
