import Patternwork.Proofs.Backtrack.Renumbered

namespace Patternwork.Backtrack

/-- How many groups and repetitions come before a pattern, where it is a part of another one. -/
structure Offset where
  groups : Nat
  loops : Nat

/-- The number of a group. Group zero is the whole match, wherever the pattern stands. -/
def Offset.group (offset : Offset) (index : Nat) : Nat :=
  if index = 0 then 0 else index + offset.groups

mutual

/-- A pattern with the numbers that its groups and repetitions have as a part of another one. -/
def Tree.renumber (offset : Offset) : Tree → Tree
  | .empty => .empty
  | .set members => .set members
  | .look condition => .look condition
  | .concat parts => .concat (renumberAll offset parts)
  | .alt branches => .alt (renumberAll offset branches)
  | .group index a => .group (offset.group index) (a.renumber offset)
  | .rep loop least greatest greedy a =>
    .rep (loop + offset.loops) least greatest greedy (a.renumber offset)
  | .ahead negated a => .ahead negated (a.renumber offset)
  | .behind negated a => .behind negated (a.renumber offset)
  | .atomic a => .atomic (a.renumber offset)
  | .backref index => .backref (offset.group index)
  | .groupSet index => .groupSet (offset.group index)
  | .keepOut => .keepOut
  | .searchStart => .searchStart
  | .conditional condition yes no =>
    .conditional (condition.renumber offset) (yes.renumber offset) (no.renumber offset)

def Tree.renumberAll (offset : Offset) : List Tree → List Tree
  | [] => []
  | a :: rest => a.renumber offset :: renumberAll offset rest

end

namespace Tree

variable {offset : Offset}

theorem renumberAll_eq (parts : List Tree) :
    renumberAll offset parts = parts.map (renumber offset) := by
  induction parts with
  | nil => rfl
  | cons a rest ih => rw [renumberAll, ih, List.map_cons]

mutual

theorem minSize_renumber : ∀ a : Tree, (a.renumber offset).minSize = a.minSize
  | .empty | .set _ | .look _ | .ahead _ _ | .behind _ _ | .backref _ | .groupSet _ | .keepOut
  | .searchStart => rfl
  | .concat parts => sumSizes_renumberAll parts
  | .alt branches => leastSize_renumberAll branches
  | .group _ a | .atomic a => minSize_renumber a
  | .rep _ least _ _ a => congrArg (· * least) (minSize_renumber a)
  | .conditional condition yes no => by
    simp only [renumber, minSize, minSize_renumber condition, minSize_renumber yes,
      minSize_renumber no]

theorem sumSizes_renumberAll : ∀ parts : List Tree,
    sumSizes (renumberAll offset parts) = sumSizes parts
  | [] => rfl
  | a :: rest => by
    simp only [renumberAll, sumSizes, minSize_renumber a, sumSizes_renumberAll rest]

theorem leastSize_renumberAll : ∀ branches : List Tree,
    leastSize (renumberAll offset branches) = leastSize branches
  | [] => rfl
  | [a] => minSize_renumber a
  | a :: b :: rest => by
    have hrest := leastSize_renumberAll (b :: rest)
    rw [renumberAll] at hrest
    simp only [renumberAll, leastSize, minSize_renumber a, hrest]

end

theorem sameSizes_renumberAll (branches : List Tree) :
    sameSizes (renumberAll offset branches) = sameSizes branches := by
  induction branches with
  | nil => rfl
  | cons a rest ih =>
    cases rest with
    | nil => rfl
    | cons b rest =>
      rw [renumberAll] at ih
      simp only [renumberAll, sameSizes, minSize_renumber, ih]

mutual

theorem constSize_renumber : ∀ a : Tree, (a.renumber offset).constSize = a.constSize
  | .empty | .set _ | .look _ | .ahead _ _ | .behind _ _ | .backref _ | .groupSet _ | .keepOut
  | .searchStart => rfl
  | .concat parts => allConst_renumberAll parts
  | .alt branches => by
    simp only [renumber, constSize, allConst_renumberAll branches, sameSizes_renumberAll]
  | .group _ a | .atomic a => constSize_renumber a
  | .rep _ _ _ _ a => by simp only [renumber, constSize, constSize_renumber a]
  | .conditional condition yes no => by
    simp only [renumber, constSize, constSize_renumber condition, constSize_renumber yes,
      constSize_renumber no, minSize_renumber]

theorem allConst_renumberAll : ∀ parts : List Tree,
    allConst (renumberAll offset parts) = allConst parts
  | [] => rfl
  | a :: rest => by
    simp only [renumberAll, allConst, constSize_renumber a, allConst_renumberAll rest]

end

mutual

/-- Where no group is referred to, it does not matter which numbers the groups have. -/
theorem isHard_renumber : ∀ a : Tree, (a.renumber offset).isHard [] = a.isHard []
  | .empty | .set _ | .ahead _ _ | .behind _ _ | .atomic _ | .backref _ | .groupSet _ | .keepOut
  | .searchStart | .conditional _ _ _ => rfl
  | .look _ => rfl
  | .concat parts => anyHard_renumberAll parts
  | .alt branches => anyHard_renumberAll branches
  | .group _ a => congrArg (· || false) (isHard_renumber a)
  | .rep _ _ _ _ a => isHard_renumber a

theorem anyHard_renumberAll : ∀ parts : List Tree,
    anyHard [] (renumberAll offset parts) = anyHard [] parts
  | [] => rfl
  | a :: rest => by
    simp only [renumberAll, anyHard, isHard_renumber a, anyHard_renumberAll rest]

end

mutual

theorem regular?_renumber : ∀ a : Tree, (a.renumber offset).regular? = a.regular?
  | .empty | .set _ | .look _ | .ahead _ _ | .behind _ _ | .atomic _ | .backref _ | .groupSet _
  | .keepOut | .searchStart | .conditional _ _ _ => rfl
  | .concat parts => congrArg (Option.map Regular.seqs) (regulars?_renumberAll parts)
  | .alt branches => congrArg (Option.map Regular.alts) (regulars?_renumberAll branches)
  | .group _ a => congrArg (Option.map Regular.capture) (regular?_renumber a)
  | .rep _ _ _ _ a => by simp only [renumber, regular?, regular?_renumber a]

theorem regulars?_renumberAll : ∀ parts : List Tree,
    regulars? (renumberAll offset parts) = regulars? parts
  | [] => rfl
  | a :: rest => by
    simp only [renumberAll, regulars?, regular?_renumber a, regulars?_renumberAll rest]

end

mutual

/-- Whether nothing is repeated without an upper bound that can match nothing. -/
def steady : Tree → Bool
  | .concat parts => allSteady parts
  | .alt branches => allSteady branches
  | .group _ a => a.steady
  | .rep _ _ greatest _ a => (greatest.isSome || a.minSize != 0) && a.steady
  | .empty | .set _ | .look _ | .ahead _ _ | .behind _ _ | .atomic _ | .backref _ | .groupSet _
  | .keepOut | .searchStart | .conditional _ _ _ => true

def allSteady : List Tree → Bool
  | [] => true
  | a :: rest => a.steady && allSteady rest

end

mutual

theorem steady_renumber : ∀ a : Tree, (a.renumber offset).steady = a.steady
  | .empty | .set _ | .look _ | .ahead _ _ | .behind _ _ | .atomic _ | .backref _ | .groupSet _
  | .keepOut | .searchStart | .conditional _ _ _ => rfl
  | .concat parts => allSteady_renumberAll parts
  | .alt branches => allSteady_renumberAll branches
  | .group _ a => steady_renumber a
  | .rep _ _ _ _ a => by
    simp only [renumber, steady, steady_renumber a, minSize_renumber]

theorem allSteady_renumberAll : ∀ parts : List Tree,
    allSteady (renumberAll offset parts) = allSteady parts
  | [] => rfl
  | a :: rest => by
    simp only [renumberAll, allSteady, steady_renumber a, allSteady_renumberAll rest]

end

theorem regulars?_map_renumber (parts : List Tree) :
    regulars? (parts.map (renumber offset)) = regulars? parts := by
  rw [← renumberAll_eq, regulars?_renumberAll]

theorem allConst_map_renumber (parts : List Tree) :
    allConst (parts.map (renumber offset)) = allConst parts := by
  rw [← renumberAll_eq, allConst_renumberAll]

theorem anyHard_map_renumber (parts : List Tree) :
    anyHard [] (parts.map (renumber offset)) = anyHard [] parts := by
  rw [← renumberAll_eq, anyHard_renumberAll]

end Tree

namespace Code

variable {numbers : Numbers}

theorem renumber_seqs (codes : List Code) :
    (seqs codes).renumber numbers = seqs (codes.map (renumber numbers)) := by
  induction codes with
  | nil => rfl
  | cons code rest ih =>
    cases rest with
    | nil => rfl
    | cons next rest => exact congrArg (seq (code.renumber numbers)) ih

theorem renumber_choices (codes : List Code) :
    (choices codes).renumber numbers = choices (codes.map (renumber numbers)) := by
  induction codes with
  | nil => rfl
  | cons code rest ih =>
    cases rest with
    | nil => rfl
    | cons next rest => exact congrArg (choice (code.renumber numbers)) ih

end Code

section

variable {offset : Offset} {numbers : Numbers} {demand : Demand} {codes : List (Option Code)}

theorem delegate?_renumber (parts : List Tree) :
    delegate? demand (parts.map (Tree.renumber offset)) = delegate? demand parts := by
  cases parts with
  | nil => rfl
  | cons a rest =>
    have hregulars : Tree.regulars? ((a :: rest).map (Tree.renumber offset)) = _ :=
      Tree.regulars?_map_renumber (a :: rest)
    have hconst : Tree.allConst ((a :: rest).map (Tree.renumber offset)) = _ :=
      Tree.allConst_map_renumber (a :: rest)
    rw [List.map_cons] at hregulars hconst ⊢
    simp only [delegate?, hregulars, hconst]

/-- What is handed over keeps no positions. -/
theorem renumber_of_delegate? {parts : List Tree} {code : Code}
    (hcode : delegate? demand parts = some code) : code.renumber numbers = code := by
  cases parts with
  | nil =>
    cases hcode
    rfl
  | cons a rest =>
    obtain ⟨nodes, _, hcode⟩ := Option.bind_eq_some_iff.mp hcode
    dsimp only at hcode
    split_ifs at hcode <;> cases hcode <;> rfl

theorem map_renumber_delegate? (parts : List Tree) :
    (delegate? demand parts).map (Code.renumber numbers) = delegate? demand parts := by
  cases hcode : delegate? demand parts with
  | none => rfl
  | some code => exact congrArg some (renumber_of_delegate? hcode)

theorem plainPrefix_renumber (parts : List Tree) :
    plainPrefix [] (parts.map (Tree.renumber offset)) = plainPrefix [] parts := by
  simp only [plainPrefix, List.takeWhile_map, List.length_map]
  congr 2
  funext a
  simp only [Function.comp_apply, Tree.constSize_renumber, Tree.isHard_renumber]

theorem plainSuffix_renumber (parts : List Tree) :
    plainSuffix [] demand (parts.map (Tree.renumber offset)) = plainSuffix [] demand parts := by
  simp only [plainSuffix, ← List.map_reverse, List.takeWhile_map, List.length_map]
  congr 2
  funext a
  simp only [Function.comp_apply, Tree.constSize_renumber, Tree.isHard_renumber]

theorem mapM_map_some {α β γ : Type} (f : α → Option β) (g : β → γ) (members : List α) :
    (members.mapM fun a => (f a).map g) = (members.mapM f).map (List.map g) := by
  induction members with
  | nil => rfl
  | cons a rest ih =>
    rw [List.mapM_cons, List.mapM_cons, ih]
    cases f a <;> cases rest.mapM f <;> rfl

theorem mapM_id_map {α β : Type} (f : α → β) (found : List (Option α)) :
    (found.map (Option.map f)).mapM id = (found.mapM id).map (List.map f) := by
  rw [List.mapM_map, ← mapM_map_some]
  rfl

theorem assemble?_renumber (parts : List Tree) :
    assemble? [] demand (parts.map (Tree.renumber offset))
        (codes.map (Option.map (Code.renumber numbers))) =
      (assemble? [] demand parts codes).map (Code.renumber numbers) := by
  simp only [assemble?, plainPrefix_renumber, ← List.map_drop, ← List.map_take,
    plainSuffix_renumber, List.length_map, mapM_id_map, delegate?_renumber]
  generalize hstart : delegate? .every _ = start
  generalize ((codes.drop _).take _).mapM id = inner
  generalize hstop : delegate? demand _ = stop
  cases start with
  | none => rfl
  | some start =>
    cases inner with
    | none => rfl
    | some inner =>
      cases stop with
      | none => rfl
      | some stop =>
        refine congrArg some ?_
        rw [Code.renumber_seqs, List.map_append, List.map_cons, List.map_singleton,
          renumber_of_delegate? hstart, renumber_of_delegate? hstop]

theorem alternatives?_renumber (branches : List Tree) :
    alternatives? [] demand (branches.map (Tree.renumber offset))
        (codes.map (Option.map (Code.renumber numbers))) =
      (alternatives? [] demand branches codes).map (Code.renumber numbers) := by
  have hdelegate : delegate? demand [Tree.alt (branches.map (Tree.renumber offset))] =
      delegate? demand [.alt branches] := by
    rw [← Tree.renumberAll_eq]
    exact delegate?_renumber [.alt branches]
  unfold alternatives?
  rw [Tree.anyHard_map_renumber, hdelegate]
  split
  · exact (map_renumber_delegate? _).symm
  · rw [mapM_id_map, Option.map_map, Option.map_map]
    congr 1
    funext found
    exact (Code.renumber_choices found).symm

theorem repetition_renumber (least : Nat) (greatest : Option Nat) (greedy nullable : Bool)
    (slot : Nat) (code : Code) :
    (repetition least greatest greedy nullable slot code).renumber numbers =
      repetition least greatest greedy nullable (numbers.slot slot) (code.renumber numbers) := by
  unfold repetition
  split
  · split <;> rfl
  · split
    · rfl
    · split <;> rfl
  · rfl

theorem lookBehind?_renumber (negated : Bool) (a : Tree) (code? : Option Code) :
    lookBehind? negated (a.renumber offset) (code?.map (Code.renumber numbers)) =
      (lookBehind? negated a code?).map (Code.renumber numbers) := by
  unfold lookBehind?
  rw [Tree.constSize_renumber, Tree.minSize_renumber]
  split
  · rw [Option.map_map, Option.map_map]
    congr 1
    funext code
    cases negated <;> rfl
  · rfl

theorem lookBehindEach?_renumber (negated : Bool) (branches : List Tree) :
    lookBehindEach? negated (branches.map (Tree.renumber offset))
        (codes.map (Option.map (Code.renumber numbers))) =
      (lookBehindEach? negated branches codes).map (Code.renumber numbers) := by
  have heach : ((branches.map (Tree.renumber offset)).zip
      (codes.map (Option.map (Code.renumber numbers)))).mapM
        (fun found => lookBehind? negated found.1 found.2) =
      ((branches.zip codes).mapM fun found => lookBehind? negated found.1 found.2).map
        (List.map (Code.renumber numbers)) := by
    rw [List.zip_map, List.mapM_map, ← mapM_map_some]
    congr 1
    funext found
    exact lookBehind?_renumber negated found.1 found.2
  unfold lookBehindEach?
  dsimp only
  rw [heach]
  cases (branches.zip codes).mapM fun found => lookBehind? negated found.1 found.2 with
  | none => rfl
  | some looks =>
    cases negated
    · exact congrArg some (Code.renumber_choices looks).symm
    · exact congrArg some (Code.renumber_seqs looks).symm

end

/-- The slots of a program, of which `slots` belong to groups, as the slots of a program with other
    parts before it, of which `total` do. -/
def Offset.numbers (offset : Offset) (slots total : Nat) : Numbers where
  group := offset.group
  slot slot :=
    if slot < 2 then slot
    else if slot < slots then slot + 2 * offset.groups
    else slot - slots + offset.loops + total

section

variable {offset : Offset} {groups loops slots total : Nat} {numbers : Numbers}

theorem Offset.numbers_start (hslots : slots = 2 * (groups + 1)) {index : Nat}
    (hle : index ≤ groups) :
    (offset.numbers slots total).slot (2 * index) = 2 * offset.group index := by
  simp only [numbers, group]
  split_ifs <;> omega

theorem Offset.numbers_stop (hslots : slots = 2 * (groups + 1)) {index : Nat}
    (hle : index ≤ groups) :
    (offset.numbers slots total).slot (2 * index + 1) = 2 * offset.group index + 1 := by
  simp only [numbers, group]
  split_ifs <;> omega

theorem Offset.numbers_loop (hslots : slots = 2 * (groups + 1)) (loop : Nat) :
    (offset.numbers slots total).slot (slots + loop) = total + (loop + offset.loops) := by
  simp only [numbers]
  split_ifs <;> omega

/-- Where there is room for all parts, the slots of a program stay apart. -/
theorem Offset.numbers_fits (hslots : slots = 2 * (groups + 1)) {further : Nat}
    (hgroups : slots + 2 * offset.groups ≤ total) (hloops : loops + offset.loops ≤ further) :
    (offset.numbers slots total).Fits groups (slots + loops) (total + further) where
  groups_lt := by omega
  lt {slot} hlt := by
    simp only [numbers]
    split_ifs <;> omega
  injective {slot other} hlt hother heq := by
    simp only [numbers] at heq
    split_ifs at heq <;> omega
  start := numbers_start hslots
  stop := numbers_stop hslots

/-- What is not hard is handed over, if the demand allows it. -/
theorem compile?_renumber_of {demand : Demand} {a : Tree}
    (hkept : ¬ (demand ≠ .every && !a.isHard []) = true →
      ¬ (demand ≠ .every && !(a.renumber offset).isHard []) = true →
      compile? [] total demand (a.renumber offset) =
        (compile? [] slots demand a).map (Code.renumber numbers)) :
    compile? [] total demand (a.renumber offset) =
      (compile? [] slots demand a).map (Code.renumber numbers) := by
  by_cases hplain : (demand ≠ .every && !a.isHard []) = true
  · have hother : (demand ≠ .every && !(a.renumber offset).isHard []) = true := by
      rwa [Tree.isHard_renumber]
    rw [compile?.eq_def, if_pos hother, compile?.eq_def, if_pos hplain, map_renumber_delegate?]
    exact delegate?_renumber [a]
  · exact hkept hplain (by rwa [Tree.isHard_renumber])

mutual

/-- With other parts before it a pattern is compiled to the same program, with the numbers that it
    has there. -/
theorem compile?_renumber (hslots : slots = 2 * (groups + 1)) (demand : Demand) :
    ∀ a : Tree, a.Within groups loops →
      compile? [] total demand (a.renumber offset) =
        (compile? [] slots demand a).map (Code.renumber (offset.numbers slots total))
  | .empty, _ | .look _, _ | .searchStart, _ =>
    compile?_renumber_of fun hplain hother => by
      rw [compile?.eq_def, if_neg hother, compile?.eq_def, if_neg hplain]
      rfl
  | .set members, _ =>
    compile?_renumber_of fun hplain hother => by
      rw [compile?.eq_def, if_neg hother, compile?.eq_def, if_neg hplain]
      exact (map_renumber_delegate? [.set members]).symm
  | .concat parts, ha =>
    compile?_renumber_of fun hplain hother => by
      rw [compile?.eq_def, if_neg hother, compile?.eq_def, if_neg hplain]
      dsimp only [Tree.renumber]
      rw [compileEach_renumber hslots .every parts ha, Tree.renumberAll_eq, assemble?_renumber]
  | .alt branches, ha =>
    compile?_renumber_of fun hplain hother => by
      rw [compile?.eq_def, if_neg hother, compile?.eq_def, if_neg hplain]
      dsimp only [Tree.renumber]
      rw [compileEach_renumber hslots demand branches ha, Tree.renumberAll_eq,
        alternatives?_renumber]
  | .group index a, ⟨_, hle, ha⟩ =>
    compile?_renumber_of fun hplain hother => by
      rw [compile?.eq_def, if_neg hother, compile?.eq_def, if_neg hplain]
      dsimp only [Tree.renumber]
      rw [compile?_renumber hslots demand a ha, Option.map_map, Option.map_map]
      congr 1
      funext code
      simp only [Function.comp_apply, Code.renumber, Offset.numbers_start hslots hle,
        Offset.numbers_stop hslots hle]
  | .rep loop least greatest greedy a, ⟨_, ha⟩ =>
    compile?_renumber_of fun hplain hother => by
      rw [compile?.eq_def, if_neg hother, compile?.eq_def, if_neg hplain]
      dsimp only [Tree.renumber]
      rw [compile?_renumber hslots _ a ha, Option.map_map, Option.map_map, Tree.minSize_renumber]
      congr 1
      funext code
      simp only [Function.comp_apply, repetition_renumber, Offset.numbers_loop hslots]
  | .ahead negated a, ha =>
    compile?_renumber_of fun hplain hother => by
      rw [compile?.eq_def, if_neg hother, compile?.eq_def, if_neg hplain]
      dsimp only [Tree.renumber]
      rw [compile?_renumber hslots .some a ha, Option.map_map, Option.map_map]
      cases negated <;> rfl
  | .behind negated a, ha =>
    compile?_renumber_of fun hplain hother => by
      have hlook : lookBehind? negated (a.renumber offset)
            (compile? [] total .some (a.renumber offset)) =
          (lookBehind? negated a (compile? [] slots .some a)).map
            (Code.renumber (offset.numbers slots total)) := by
        rw [compile?_renumber hslots .some a ha, lookBehind?_renumber]
      rw [compile?.eq_def, if_neg hother, compile?.eq_def, if_neg hplain]
      cases a with
      | alt branches =>
        have hconst : ((Tree.alt branches).renumber offset).constSize = _ :=
          (Tree.alt branches).constSize_renumber
        dsimp only [Tree.renumber] at hconst ⊢
        rw [hconst, compileEach_renumber hslots .some branches ha]
        split
        · rw [Tree.renumberAll_eq, alternatives?_renumber, ← Tree.renumberAll_eq]
          exact lookBehind?_renumber negated (.alt branches) _
        · rw [Tree.renumberAll_eq, lookBehindEach?_renumber]
      | _ => exact hlook
  | .atomic a, ha =>
    compile?_renumber_of fun hplain hother => by
      rw [compile?.eq_def, if_neg hother, compile?.eq_def, if_neg hplain]
      dsimp only [Tree.renumber]
      rw [compile?_renumber hslots .first a ha, Option.map_map, Option.map_map]
      rfl
  | .backref index, hle | .groupSet index, hle =>
    compile?_renumber_of fun hplain hother => by
      rw [compile?.eq_def, if_neg hother, compile?.eq_def, if_neg hplain]
      rfl
  | .keepOut, _ =>
    compile?_renumber_of fun hplain hother => by
      rw [compile?.eq_def, if_neg hother, compile?.eq_def, if_neg hplain]
      rfl
  | .conditional condition yes no, ⟨hcondition, hyes, hno⟩ =>
    compile?_renumber_of fun hplain hother => by
      rw [compile?.eq_def, if_neg hother, compile?.eq_def, if_neg hplain]
      dsimp only [Tree.renumber]
      rw [compile?_renumber hslots _ condition hcondition, compile?_renumber hslots demand yes hyes,
        compile?_renumber hslots demand no hno]
      generalize compile? [] slots _ condition = tested
      generalize compile? [] slots demand yes = first
      generalize compile? [] slots demand no = second
      cases tested <;> cases first <;> cases second <;> rfl

theorem compileEach_renumber (hslots : slots = 2 * (groups + 1)) (demand : Demand) :
    ∀ parts : List Tree, Tree.WithinAll groups loops parts →
      compileEach [] total demand (Tree.renumberAll offset parts) =
        (compileEach [] slots demand parts).map
          (Option.map (Code.renumber (offset.numbers slots total)))
  | [], _ => rfl
  | a :: rest, ⟨ha, hrest⟩ => by
    rw [Tree.renumberAll, compileEach, compileEach, compile?_renumber hslots demand a ha,
      compileEach_renumber hslots demand rest hrest, List.map_cons]

end

end

end Patternwork.Backtrack
