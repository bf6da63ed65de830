import Mathlib.Algebra.GroupWithZero.Nat
import Patternwork.Proofs.Regular.Reading.Frame

namespace Patternwork.Regular

variable {parts before : List Part} {b c : Branches} {n : Nat}

theorem Switched.repeatable (hbefore : Switched before) :
    ∀ part ∈ before, part.repeatable = false := by
  intro part hpart
  rw [hbefore part hpart]
  rfl

theorem size_seqs {as : List Regular} (has : as ≠ []) : (seqs as).size = (as.map size).sum := by
  induction as with
  | nil => exact absurd rfl has
  | cons a as ih =>
    cases as with
    | nil => simp [seqs]
    | cons b as =>
      rw [seqs, size, ih (List.cons_ne_nil b as)]
      · rfl
      · simp

theorem size_alts {as : List Regular} (has : as ≠ []) :
    (alts as).size + 36 = (as.map fun a => a.size + 36).sum := by
  induction as with
  | nil => exact absurd rfl has
  | cons a as ih =>
    cases as with
    | nil => simp [alts]
    | cons b as =>
      have hrest := ih (List.cons_ne_nil b as)
      rw [alts, size]
      · rw [List.map_cons, List.sum_cons, ← hrest]
        omega
      · simp

/-- The sizes of parts that stand one after another. -/
def totalSize (parts : List Part) : Nat := (parts.map fun part => part.node.size).sum

theorem totalSize_append (parts more : List Part) :
    totalSize (parts ++ more) = totalSize parts + totalSize more := by
  simp [totalSize]

theorem size_joinParts (hparts : parts ≠ []) : (joinParts parts).node.size = totalSize parts := by
  rw [joinParts_node, size_seqs (by simpa using hparts), List.map_map, totalSize,
    List.map_reverse, List.sum_reverse]
  rfl

theorem levelDepth_le_iff : levelDepth parts ≤ n ↔ 0 < n ∧ ∀ part ∈ parts, part.depth < n := by
  have hfold (start : Nat) : parts.foldl (fun depth part => max depth part.depth) start < n ↔
      start < n ∧ ∀ part ∈ parts, part.depth < n := by
    induction parts generalizing start with
    | nil => simp
    | cons part parts ih =>
      rw [List.foldl_cons, ih, Nat.max_lt, List.forall_mem_cons, and_assoc]
  rw [levelDepth, Nat.add_comm]
  exact hfold 0

theorem levelDepth_pos (parts : List Part) : 0 < levelDepth parts :=
  (levelDepth_le_iff.mp (Nat.le_refl _)).1

theorem depth_lt_levelDepth {part : Part} (hpart : part ∈ parts) :
    part.depth < levelDepth parts :=
  (levelDepth_le_iff.mp (Nat.le_refl _)).2 part hpart

theorem depth_le_joinParts {part : Part} (hpart : part ∈ parts) :
    part.depth ≤ (joinParts parts).depth := by
  match parts, hpart with
  | [first], hpart =>
    obtain rfl := List.mem_singleton.mp hpart
    exact Nat.le_refl _
  | first :: second :: more, hpart => exact Nat.le_of_lt (depth_lt_levelDepth hpart)

/-- Parts one after another add at most one level. -/
theorem depth_joinParts_le (hparts : ∀ part ∈ parts, part.depth ≤ n) :
    (joinParts parts).depth ≤ n + 1 := by
  match parts with
  | [] => exact Nat.zero_le _
  | [part] => exact Nat.le_succ_of_le (hparts part (List.mem_singleton_self part))
  | _ :: _ :: _ =>
    exact levelDepth_le_iff.mpr ⟨Nat.succ_pos n, fun part hpart =>
      Nat.lt_succ_of_le (hparts part hpart)⟩

theorem depth_joinParts_le_append (parts more : List Part) :
    (joinParts parts).depth ≤ (joinParts (parts ++ more)).depth := by
  match parts with
  | [] => exact Nat.zero_le _
  | [part] => exact depth_le_joinParts (List.mem_cons_self ..)
  | first :: second :: rest =>
    exact levelDepth_le_iff.mpr ⟨levelDepth_pos _, fun part hpart =>
      depth_lt_levelDepth (List.mem_append_left more hpart)⟩

/-- The parts that inline flags leave add no depth of their own. -/
theorem depth_joinParts_append_le (parts : List Part) (hbefore : Switched before) :
    (joinParts (parts ++ before)).depth ≤ (joinParts parts).depth + 1 := by
  refine depth_joinParts_le fun part hpart => ?_
  rcases List.mem_append.mp hpart with hpart | hpart
  · exact depth_le_joinParts hpart
  · rw [hbefore part hpart]
    exact Nat.zero_le _

theorem size_switched (hbefore : Switched before) : totalSize before = 32 * before.length := by
  have hsame : before = List.replicate before.length switched :=
    List.eq_replicate_iff.mpr ⟨rfl, hbefore⟩
  rw [totalSize, hsame]
  simp [switched, size, Nat.mul_comm]

/-- Parts that inline flags leave add their own size, unless they stand for an empty branch. -/
theorem size_joinParts_append (parts : List Part) (hbefore : Switched before) :
    (joinParts parts).node.size ≤ (joinParts (parts ++ before)).node.size ∧
      (joinParts (parts ++ before)).node.size ≤ (joinParts parts).node.size + totalSize before ∧
      (joinParts parts).node.size + totalSize before ≤
        (joinParts (parts ++ before)).node.size + 32 := by
  have hempty : (joinParts []).node.size = 32 := rfl
  have htotal := size_switched hbefore
  cases parts with
  | nil =>
    cases before with
    | nil => simp [totalSize]
    | cons part before =>
      rw [List.nil_append, hempty, size_joinParts (List.cons_ne_nil _ _)]
      rw [List.length_cons] at htotal
      omega
  | cons part parts =>
    rw [size_joinParts (List.cons_ne_nil _ _), size_joinParts (by simp), totalSize_append]
    omega

/-- What is added to an expression by what stands before its first branch. -/
structure Grows (a grown : Part) (more : Nat) : Prop where
  depth_le : a.depth ≤ grown.depth
  depth_grown_le : grown.depth ≤ a.depth + 1
  size_le : a.node.size ≤ grown.node.size
  size_grown_le : grown.node.size ≤ a.node.size + more
  size_add_le : a.node.size + more ≤ grown.node.size + 32

theorem grows_joinParts (parts : List Part) (hbefore : Switched before) :
    Grows (joinParts parts) (joinParts (parts ++ before)) (totalSize before) := by
  obtain ⟨hsize, hgrown, hadd⟩ := size_joinParts_append parts hbefore
  exact ⟨depth_joinParts_le_append parts before, depth_joinParts_append_le parts hbefore, hsize,
    hgrown, hadd⟩

/-- Branches nest and grow as their first one does. -/
theorem Grows.join {a grown : Part} {more : Nat} (hgrows : Grows a grown more)
    (parts done : List Part) :
    Grows (Branches.join ⟨done ++ [a], parts⟩) (Branches.join ⟨done ++ [grown], parts⟩) more := by
  have hdepth (first : Part) : (Branches.join ⟨done ++ [first], parts⟩).depth =
      levelDepth (joinParts parts :: (done ++ [first])) := by
    cases done <;> rfl
  have hsize (first : Part) : (Branches.join ⟨done ++ [first], parts⟩).node.size =
      (joinParts parts).node.size + 36 +
        (done.map fun part => part.node.size + 36).sum + first.node.size := by
    have halts := size_alts
      (show Branches.nodes ⟨done ++ [first], parts⟩ ≠ [] by simp [Branches.nodes])
    rw [join_node]
    simp only [Branches.nodes, List.map_map, List.map_reverse, List.sum_reverse, List.map_cons,
      List.map_append, List.map_nil, List.sum_cons, List.sum_append, List.sum_nil,
      Function.comp_def] at halts ⊢
    omega
  have hlevel {first second : Part} {n : Nat} (hle : second.depth ≤ first.depth + n) :
      levelDepth (joinParts parts :: (done ++ [second])) ≤
        levelDepth (joinParts parts :: (done ++ [first])) + n := by
    have hlast : first.depth < levelDepth (joinParts parts :: (done ++ [first])) :=
      depth_lt_levelDepth (by simp)
    refine levelDepth_le_iff.mpr ⟨Nat.lt_of_lt_of_le (levelDepth_pos _) (Nat.le_add_right ..),
      fun part hpart => ?_⟩
    rw [← List.cons_append, List.mem_append, List.mem_singleton] at hpart
    rcases hpart with hpart | rfl
    · exact Nat.lt_of_lt_of_le (depth_lt_levelDepth (List.mem_append_left _ hpart))
        (Nat.le_add_right ..)
    · omega
  refine ⟨?_, ?_, ?_, ?_, ?_⟩
  · rw [hdepth, hdepth]
    exact hlevel (n := 0) hgrows.depth_le
  · rw [hdepth, hdepth]
    exact hlevel hgrows.depth_grown_le
  · rw [hsize, hsize]
    exact Nat.add_le_add_left hgrows.size_le _
  · rw [hsize, hsize]
    have := hgrows.size_grown_le
    omega
  · rw [hsize, hsize]
    have := hgrows.size_add_le
    omega

theorem Branches.After.grows (hafter : Branches.After ⟨[], before⟩ b c)
    (hbefore : Switched before) : Grows b.join c.join (totalSize before) := by
  cases hafter with
  | first parts => exact grows_joinParts parts hbefore
  | later done parts initial => exact (grows_joinParts initial hbefore).join parts done

end Patternwork.Regular
