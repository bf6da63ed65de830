import Patternwork.Proofs.Backtrack.Reading.Assembled
import Patternwork.Proofs.Regular.Words

namespace Patternwork.Backtrack

variable {referenced : List Nat} {start stop : Bool} {modes : Modes} {a b : Tree}

theorem reverse_asParts (a : Tree) : a.asParts.reverse = a.asParts := by
  cases a <;> rfl

/-- The branches that have been read, with the one that is being read. -/
def Branches.trees (branches : Branches) : List Tree :=
  (joinParts branches.parts :: branches.done).reverse

/-- Alternatives as a tree, which a single one is itself. -/
def alternation : List Tree → Tree
  | [a] => a
  | as => .alt as

theorem join_eq_alternation (branches : Branches) : branches.join = alternation branches.trees := by
  obtain ⟨done, parts⟩ := branches
  cases done with
  | nil => rfl
  | cons a done =>
    have hlength : (Branches.trees ⟨a :: done, parts⟩).length ≠ 1 := by simp [Branches.trees]
    unfold alternation
    split
    next heq => simp [heq] at hlength
    next => rfl

theorem regulars?_append (as bs : List Tree) :
    Tree.regulars? (as ++ bs) =
      (Tree.regulars? as).bind fun first => (Tree.regulars? bs).map (first ++ ·) := by
  induction as with
  | nil => simp [Tree.regulars?]
  | cons a as ih =>
    rw [List.cons_append, Tree.regulars?, Tree.regulars?, ih]
    cases a.regular? <;> cases Tree.regulars? as <;> cases Tree.regulars? bs <;> rfl

theorem regular?_joinParts (parts : List Tree) :
    (joinParts parts).regular? = (Tree.regulars? parts.reverse).map Regular.seqs := by
  match parts with
  | [] => rfl
  | [a] =>
    simp only [joinParts, List.reverse_singleton, Tree.regulars?]
    cases a.regular? <;> rfl
  | _ :: _ :: _ => rfl

theorem regular?_alternation {as : List Tree} (has : as ≠ []) :
    (alternation as).regular? = (Tree.regulars? as).map Regular.alts := by
  match as with
  | [a] =>
    simp only [alternation, Tree.regulars?]
    cases a.regular? <;> rfl
  | _ :: _ :: _ => rfl

theorem regular?_eq_seqs (a : Tree) :
    a.regular? = (Tree.regulars? a.asParts).map Regular.seqs := by
  have hjoin := regular?_joinParts a.asParts
  rwa [joinParts_asParts, reverse_asParts] at hjoin

/-- A group between anchors is handed over with them. -/
theorem regular?_framedTree :
    (framedTree start stop modes a).regular? =
      (Tree.regulars? a.asParts).map fun parts =>
        Regular.seqs (Regular.anchor start modes.caret ++
          (parts ++ Regular.anchor stop modes.dollar)) := by
  have hanchor (called : Bool) (condition : Look) :
      Tree.regulars? (anchorTrees called condition).reverse =
        some (Regular.anchor called condition) := by
    cases called <;> rfl
  rw [framedTree, regular?_joinParts, List.reverse_append, List.reverse_append, reverse_asParts,
    regulars?_append, regulars?_append, hanchor, hanchor]
  cases Tree.regulars? a.asParts <;> simp

theorem of_regular?_framedTree {whole : Regular}
    (hwhole : (framedTree start stop modes a).regular? = some whole) :
    ∃ parts, a.regular? = some (Regular.seqs parts) ∧
      whole = Regular.seqs (Regular.anchor start modes.caret ++
        (parts ++ Regular.anchor stop modes.dollar)) := by
  rw [regular?_framedTree] at hwhole
  obtain ⟨parts, hparts, rfl⟩ := Option.map_eq_some_iff.mp hwhole
  exact ⟨parts, by rw [regular?_eq_seqs, hparts]; rfl, rfl⟩

theorem anyHard_eq_false_iff {as : List Tree} :
    Tree.anyHard referenced as = false ↔ ∀ a ∈ as, a.isHard referenced = false := by
  induction as with
  | nil => simp [Tree.anyHard]
  | cons a as ih => simp [Tree.anyHard, ih]

theorem isHard_joinParts {parts : List Tree} :
    (joinParts parts).isHard referenced = false ↔ ∀ a ∈ parts, a.isHard referenced = false := by
  match parts with
  | [] => simp [joinParts, Tree.isHard]
  | [a] => simp [joinParts]
  | a :: b :: rest =>
    change Tree.anyHard referenced (a :: b :: rest).reverse = false ↔ _
    rw [anyHard_eq_false_iff]
    simp only [List.mem_reverse]

theorem isHard_alternation {as : List Tree} :
    (alternation as).isHard referenced = false ↔ ∀ a ∈ as, a.isHard referenced = false := by
  unfold alternation
  split
  next a => simp
  next => exact anyHard_eq_false_iff

theorem isHard_caret (modes : Modes) : Tree.isHard referenced (.look modes.caret) = false := by
  obtain ⟨_, multiLine, _, _, _, carriageReturn, _⟩ := modes
  cases multiLine <;> cases carriageReturn <;> rfl

theorem isHard_dollar (modes : Modes) : Tree.isHard referenced (.look modes.dollar) = false := by
  obtain ⟨_, multiLine, _, _, _, carriageReturn, _⟩ := modes
  cases multiLine <;> cases carriageReturn <;> rfl

/-- Anchors make no tree hard. -/
theorem isHard_framedTree :
    (framedTree start stop modes a).isHard referenced = a.isHard referenced := by
  have hanchors {called : Bool} {condition : Look}
      (hplain : Tree.isHard referenced (.look condition) = false) :
      ∀ b ∈ anchorTrees called condition, b.isHard referenced = false := by
    cases called with
    | false => simp [anchorTrees]
    | true => simpa [anchorTrees] using hplain
  have hframed : (framedTree start stop modes a).isHard referenced = false ↔
      ∀ b ∈ a.asParts, b.isHard referenced = false := by
    rw [framedTree, isHard_joinParts, List.forall_mem_append, List.forall_mem_append]
    exact (and_iff_right (hanchors (isHard_dollar modes))).trans
      (and_iff_left (hanchors (isHard_caret modes)))
  have ha : (joinParts a.asParts).isHard referenced = false ↔
      ∀ b ∈ a.asParts, b.isHard referenced = false := isHard_joinParts
  rw [joinParts_asParts] at ha
  exact Bool.eq_iff_iff.mpr (by simpa using not_congr (hframed.trans ha.symm))

end Patternwork.Backtrack
