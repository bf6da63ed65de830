import Mathlib.Data.List.TakeWhile
import Patternwork.Proofs.Backtrack.Offset
import Patternwork.Proofs.Backtrack.Walks
import Patternwork.Proofs.Negation.Program

namespace Patternwork.Backtrack

variable {text : Haystack} {p q : Nat} {parts : List Tree} {nodes : List Regular} {slots : Nat}

/-- The sizes of a pattern are those of the matches of its expression. -/
structure Tree.Sized (text : Haystack) (a : Tree) (node : Regular) : Prop where
  le : ∀ {p q}, node.Moves text p q → p + a.minSize ≤ q
  eq_of_const : ∀ {p q}, a.constSize = true → node.Moves text p q → q = p + a.minSize
  eq_of_empty : ∀ {p q}, node.isEmptyOnly = true → node.Moves text p q → q = p

theorem Tree.Sized.of_eq {a : Tree} {node : Regular}
    (heq : ∀ {p q}, node.Moves text p q → q = p + a.minSize)
    (hempty : node.isEmptyOnly = true → a.minSize = 0) : Sized text a node where
  le hmoves := Nat.le_of_eq (heq hmoves).symm
  eq_of_const _ hmoves := heq hmoves
  eq_of_empty hnone hmoves := (heq hmoves).trans (by rw [hempty hnone, Nat.add_zero])

theorem moves_seqs_cons {a : Regular} {as : List Regular} :
    (Regular.seqs (a :: as)).Moves text p q ↔
      ∃ r, a.Moves text p r ∧ (Regular.seqs as).Moves text r q := by
  rw [Regular.Moves, Regular.reach_seqs_cons]
  exact Regular.mem_reach_iff
    ((Regular.additive_reach text a).descending (Regular.descending_singleton p))

theorem isEmptyOnly_seqs_cons {a : Regular} {as : List Regular} :
    (Regular.seqs (a :: as)).isEmptyOnly = (a.isEmptyOnly && (Regular.seqs as).isEmptyOnly) := by
  cases as with
  | nil => simp [Regular.seqs, Regular.isEmptyOnly]
  | cons => rfl

theorem Tree.Sized.concat (hparts : List.Forall₂ (Sized text) parts nodes) :
    Sized text (.concat parts) (Regular.seqs nodes) := by
  induction hparts with
  | nil =>
    refine ⟨fun hmoves => ?_, fun _ hmoves => ?_, fun _ hmoves => List.mem_singleton.mp hmoves⟩
    all_goals
      obtain rfl := List.mem_singleton.mp hmoves
      simp [minSize, sumSizes]
  | @cons a node rest others ha _ ih =>
    have hsize : (Tree.concat (a :: rest)).minSize = a.minSize + (Tree.concat rest).minSize := rfl
    refine ⟨fun hmoves => ?_, fun hconst hmoves => ?_, fun hempty hmoves => ?_⟩
    · obtain ⟨r, hr, hq⟩ := moves_seqs_cons.mp hmoves
      have hfirst := ha.le hr
      have hsecond := ih.le hq
      omega
    · obtain ⟨r, hr, hq⟩ := moves_seqs_cons.mp hmoves
      obtain ⟨hconstFirst, hconstRest⟩ := Bool.and_eq_true_iff.mp hconst
      have hfirst := ha.eq_of_const hconstFirst hr
      have hsecond := ih.eq_of_const hconstRest hq
      omega
    · obtain ⟨r, hr, hq⟩ := moves_seqs_cons.mp hmoves
      rw [isEmptyOnly_seqs_cons] at hempty
      obtain ⟨hemptyFirst, hemptyRest⟩ := Bool.and_eq_true_iff.mp hempty
      exact (ih.eq_of_empty hemptyRest hq).trans (ha.eq_of_empty hemptyFirst hr)

theorem leastSize_of_sameSizes {a : Tree} {rest : List Tree}
    (hsame : Tree.sameSizes (a :: rest) = true) : Tree.leastSize (a :: rest) = a.minSize := by
  induction rest generalizing a with
  | nil => rfl
  | cons b rest ih =>
    obtain ⟨heq, hrest⟩ := Bool.and_eq_true_iff.mp hsame
    have heq := eq_of_beq heq
    change min a.minSize (Tree.leastSize (b :: rest)) = a.minSize
    rw [ih hrest, heq, Nat.min_self]

theorem Tree.Sized.alt (hbranches : List.Forall₂ (Sized text) parts nodes) :
    Sized text (.alt parts) (Regular.alts nodes) := by
  induction hbranches with
  | nil =>
    refine ⟨fun hmoves => ?_, fun _ hmoves => ?_, fun _ hmoves => List.mem_singleton.mp hmoves⟩
    all_goals
      obtain rfl := List.mem_singleton.mp hmoves
      simp [minSize, leastSize]
  | @cons a node rest others ha hrest ih =>
    cases hrest with
    | nil =>
      refine ⟨ha.le, fun hconst => ha.eq_of_const ?_, ha.eq_of_empty⟩
      simpa [constSize, allConst, sameSizes] using hconst
    | @cons b other more further hb hmore =>
      have hsize : (Tree.alt (a :: b :: more)).minSize =
          min a.minSize (Tree.alt (b :: more)).minSize := rfl
      refine ⟨fun hmoves => ?_, fun hconst hmoves => ?_, fun hempty hmoves => ?_⟩
      · rcases Positions.mem_union.mp hmoves with hmoves | hmoves
        · have hle := ha.le hmoves
          omega
        · have hle := ih.le hmoves
          omega
      · obtain ⟨hallConst, hsame⟩ := Bool.and_eq_true_iff.mp hconst
        obtain ⟨hconstFirst, hconstRest⟩ := Bool.and_eq_true_iff.mp hallConst
        obtain ⟨heq, hsameRest⟩ := Bool.and_eq_true_iff.mp hsame
        have hleast : (Tree.alt (b :: more)).minSize = b.minSize := leastSize_of_sameSizes hsameRest
        have heq := eq_of_beq heq
        rcases Positions.mem_union.mp hmoves with hmoves | hmoves
        · have hfirst := ha.eq_of_const hconstFirst hmoves
          omega
        · have hrest := ih.eq_of_const (Bool.and_eq_true_iff.mpr ⟨hconstRest, hsameRest⟩) hmoves
          omega
      · obtain ⟨hfirst, hsecond⟩ := Bool.and_eq_true_iff.mp hempty
        exact (Positions.mem_union.mp hmoves).elim (ha.eq_of_empty hfirst)
          (ih.eq_of_empty hsecond)

theorem isEmptyOnly_repeated {least : Nat} {greatest : Option Nat} {greedy : Bool} {a : Regular}
    (hbounds : ∀ most ∈ greatest, least ≤ most)
    (hempty : (Regular.repeated least greatest greedy a).isEmptyOnly = true) :
    greatest = some 0 ∨ a.isEmptyOnly = true := by
  refine or_iff_not_imp_right.mpr fun hnot => ?_
  unfold Regular.repeated at hempty
  rw [if_neg hnot] at hempty
  split at hempty
  next => rfl
  next => exact absurd hempty hnot
  next => simpa [Regular.isEmptyOnly, hnot] using hempty

theorem Tree.Sized.rep {a : Tree} {node : Regular} {least : Nat} {greatest : Option Nat}
    (ha : Sized text a node) (hbounds : ∀ most ∈ greatest, least ≤ most) (loop : Nat)
    (greedy : Bool) :
    Sized text (.rep loop least greatest greedy a)
      (Regular.repeated least greatest greedy node) := by
  have hstays (hempty : node.isEmptyOnly = true) (p q : Nat) (hmoves : node.Moves text p q) :
      q = p := ha.eq_of_empty hempty hmoves
  have hrepeats {p q : Nat} : (Regular.repeated least greatest greedy node).Moves text p q ↔
      Repeats (node.Moves text) least greatest p q := Regular.moves_repeated_iff hbounds hstays
  refine ⟨fun hmoves => ?_, fun hconst hmoves => ?_, fun hempty hmoves => ?_⟩
  · obtain ⟨n, hleast, _, hiterated⟩ := hrepeats.mp hmoves
    have hless : a.minSize * least ≤ a.minSize * n := Nat.mul_le_mul_left _ hleast
    exact Nat.le_trans (Nat.add_le_add_left hless _) (hiterated.add_mul_le ha.le)
  · obtain ⟨hconst, hexact⟩ := Bool.and_eq_true_iff.mp hconst
    obtain ⟨n, hleast, hmost, hiterated⟩ := hrepeats.mp hmoves
    obtain rfl := Nat.le_antisymm hleast (hmost least (eq_of_beq hexact))
    exact hiterated.eq_add_mul (ha.eq_of_const hconst)
  · obtain ⟨n, _, hmost, hiterated⟩ := hrepeats.mp hmoves
    rcases isEmptyOnly_repeated hbounds hempty with rfl | hempty
    · obtain rfl := Nat.le_zero.mp (hmost 0 rfl)
      cases hiterated
      rfl
    · exact hiterated.eq_of_stays fun p q => ha.eq_of_empty hempty

theorem bounds_of_regular? {loop least : Nat} {greatest : Option Nat} {greedy : Bool} {a : Tree}
    {node : Regular} (hnode : (Tree.rep loop least greatest greedy a).regular? = some node) :
    (∀ most ∈ greatest, least ≤ most) ∧
      ∃ inner, a.regular? = some inner ∧ node = Regular.repeated least greatest greedy inner := by
  obtain ⟨hbounds, hnode⟩ := Option.ite_none_right_eq_some.mp hnode
  obtain ⟨inner, hinner, rfl⟩ := Option.map_eq_some_iff.mp hnode
  refine ⟨fun most hmost => ?_, inner, hinner, rfl⟩
  obtain rfl := hmost
  simp only [Option.all_some, Bool.and_eq_true, decide_eq_true_eq] at hbounds
  exact hbounds.2.1

mutual

theorem Tree.sized : ∀ (a : Tree) {node : Regular}, a.regular? = some node → a.Sized text node
  | .empty, _, hnode => by
    obtain rfl := Option.some.inj hnode
    exact .of_eq List.mem_singleton.mp fun _ => rfl
  | .set members, _, hnode => by
    obtain rfl := Option.some.inj hnode
    exact .of_eq (fun hmoves => (Regular.moves_set hmoves).1) (fun hempty => by cases hempty)
  | .look condition, _, hnode => by
    obtain rfl := Option.some.inj hnode
    exact .of_eq Regular.moves_look fun _ => rfl
  | .concat parts, _, hnode => by
    obtain ⟨nodes, hnodes, rfl⟩ := Option.map_eq_some_iff.mp hnode
    exact .concat (sizedEach parts hnodes)
  | .alt branches, _, hnode => by
    obtain ⟨nodes, hnodes, rfl⟩ := Option.map_eq_some_iff.mp hnode
    exact .alt (sizedEach branches hnodes)
  | .group _ a, _, hnode => by
    obtain ⟨inner, hinner, rfl⟩ := Option.map_eq_some_iff.mp hnode
    exact { sized a hinner with }
  | .rep loop least greatest greedy a, _, hnode => by
    obtain ⟨hbounds, inner, hinner, rfl⟩ := bounds_of_regular? hnode
    exact (sized a hinner).rep hbounds loop greedy

theorem Tree.sizedEach : ∀ (parts : List Tree) {nodes : List Regular},
    Tree.regulars? parts = some nodes → List.Forall₂ (Sized text) parts nodes
  | [], _, hnodes => by
    obtain rfl := Option.some.inj hnodes
    exact .nil
  | a :: rest, _, hnodes => by
    obtain ⟨node, hnode, hnodes⟩ := Option.bind_eq_some_iff.mp hnodes
    obtain ⟨others, hothers, hnodes⟩ := Option.bind_eq_some_iff.mp hnodes
    obtain rfl := Option.some.inj hnodes
    exact .cons (sized a hnode) (sizedEach rest hothers)

end

theorem Code.Walks.seqs {codes : List Code}
    (hcodes : List.Forall₂ (fun code node => Code.Walks text code (node.Moves text)) codes nodes) :
    (Code.seqs codes).Walks text ((Regular.seqs nodes).Moves text) := by
  induction hcodes with
  | nil => exact (Code.Walks.pass text).congr fun p q => List.mem_singleton.symm
  | @cons code node rest others hcode hrest ih =>
    cases hrest with
    | nil => exact hcode
    | cons hnext hmore => exact (hcode.seq ih).congr fun p q => moves_seqs_cons.symm

theorem Code.Walks.choices {codes : List Code}
    (hcodes : List.Forall₂ (fun code node => Code.Walks text code (node.Moves text)) codes nodes) :
    (Code.choices codes).Walks text ((Regular.alts nodes).Moves text) := by
  induction hcodes with
  | nil => exact (Code.Walks.pass text).congr fun p q => List.mem_singleton.symm
  | @cons code node rest others hcode hrest ih =>
    cases hrest with
    | nil => exact hcode
    | cons hnext hmore => exact (hcode.choice ih).congr fun p q => Positions.mem_union.symm

/-- Parts of one size are handed over together, since there is one match at most to ask for. -/
theorem walks_of_delegate? {code : Code} (hcode : delegate? .every parts = some code)
    (hnodes : Tree.regulars? parts = some nodes) (hconst : Tree.allConst parts = true) :
    code.Walks text ((Regular.seqs nodes).Moves text) := by
  cases parts with
  | nil =>
    obtain rfl := Option.some.inj hcode
    obtain rfl := Option.some.inj hnodes
    exact (Code.Walks.pass text).congr fun p q => List.mem_singleton.symm
  | cons a rest =>
    obtain ⟨others, hothers, _, rfl⟩ := of_delegate? (by decide) (List.cons_ne_nil a rest) hcode
    obtain rfl := Option.some.inj (hothers.symm.trans hnodes)
    have hsized : Tree.Sized text (.concat (a :: rest)) (Regular.seqs others) :=
      .concat (Tree.sizedEach _ hnodes)
    exact .any fun p q r hq hr =>
      (hsized.eq_of_const hconst hq).trans (hsized.eq_of_const hconst hr).symm

theorem forall₂_of_mapM {α β : Type} {f : α → Option β} {members : List α} {found : List β}
    (hfound : members.mapM f = some found) :
    List.Forall₂ (fun a b => f a = some b) members found := by
  induction members generalizing found with
  | nil =>
    obtain rfl := Option.some.inj hfound
    exact .nil
  | cons a rest ih =>
    rw [List.mapM_cons] at hfound
    obtain ⟨b, hb, hfound⟩ := Option.bind_eq_some_iff.mp hfound
    obtain ⟨others, hothers, hfound⟩ := Option.bind_eq_some_iff.mp hfound
    obtain rfl := Option.some.inj hfound
    exact .cons hb (ih hothers)

theorem regulars?_eq_mapM (parts : List Tree) : Tree.regulars? parts = parts.mapM Tree.regular? := by
  induction parts with
  | nil => rfl
  | cons a rest ih =>
    rw [Tree.regulars?, List.mapM_cons, ih]
    rfl

theorem forall₂_of_regulars? (hnodes : Tree.regulars? parts = some nodes) :
    List.Forall₂ (fun a node => a.regular? = some node) parts nodes := by
  rw [regulars?_eq_mapM] at hnodes
  exact forall₂_of_mapM hnodes

/-- A pattern is compiled to a program that walks as its expression moves. -/
def Tree.WalksAs (text : Haystack) (slots : Nat) (a : Tree) : Prop :=
  ∀ ⦃code node⦄, compile? [] slots .every a = some code → a.regular? = some node →
    code.Walks text (node.Moves text)

/-- The programs of patterns beside their expressions. -/
theorem walks_each {codes : List Code} (heach : ∀ part ∈ parts, part.WalksAs text slots)
    (hcodes : parts.mapM (compile? [] slots .every) = some codes)
    (hnodes : Tree.regulars? parts = some nodes) :
    List.Forall₂ (fun code node => Code.Walks text code (node.Moves text)) codes nodes := by
  have hcompiled := forall₂_of_mapM hcodes
  have hregular := forall₂_of_regulars? hnodes
  clear hcodes hnodes
  induction hcompiled generalizing nodes with
  | nil =>
    cases hregular
    exact .nil
  | cons hcode _ ih =>
    cases hregular with
    | cons hnode hothers =>
      obtain ⟨hfirst, hrest⟩ := List.forall_mem_cons.mp heach
      exact .cons (hfirst hcode hnode) (ih hrest hothers)

theorem allConst_iff : Tree.allConst parts = true ↔ ∀ a ∈ parts, a.constSize = true := by
  induction parts with
  | nil => simp [Tree.allConst]
  | cons a rest ih => simp [Tree.allConst, ih]

theorem allConst_plainPrefix (parts : List Tree) :
    Tree.allConst (parts.take (plainPrefix [] parts)) = true := by
  rw [plainPrefix, ← List.prefix_iff_eq_take.mp (List.takeWhile_prefix _)]
  refine allConst_iff.mpr fun a ha => ?_
  have hplain := List.mem_takeWhile_imp ha
  exact (Bool.and_eq_true_iff.mp hplain).1

theorem allConst_plainSuffix (parts : List Tree) :
    Tree.allConst (parts.drop (parts.length - plainSuffix [] .every parts)) = true := by
  have hsuffix := List.reverse_suffix.mpr (List.takeWhile_prefix (l := parts.reverse)
    fun a => !a.isHard [] && (Demand.every ≠ .every || a.constSize))
  rw [List.reverse_reverse] at hsuffix
  have hdrop := List.suffix_iff_eq_drop.mp hsuffix
  rw [List.length_reverse] at hdrop
  rw [plainSuffix, ← hdrop]
  refine allConst_iff.mpr fun a ha => ?_
  have hplain := List.mem_takeWhile_imp (List.mem_reverse.mp ha)
  simpa using (Bool.and_eq_true_iff.mp hplain).2

/-- A sequence walks as its expression moves, if what it starts and ends with is handed over. -/
theorem walks_of_assemble?_parts {first middle last : List Tree} {inner : List Code}
    {start stop : Code} (heach : ∀ part ∈ middle, part.WalksAs text slots)
    (hstart : delegate? .every first = some start) (hfirst : Tree.allConst first = true)
    (hinner : middle.mapM (compile? [] slots .every) = some inner)
    (hstop : delegate? .every last = some stop) (hlast : Tree.allConst last = true)
    (hnodes : Tree.regulars? (first ++ (middle ++ last)) = some nodes) :
    (Code.seqs (start :: inner ++ [stop])).Walks text ((Regular.seqs nodes).Moves text) := by
  rw [regulars?_append, regulars?_append] at hnodes
  obtain ⟨before, hbefore, hnodes⟩ := Option.bind_eq_some_iff.mp hnodes
  obtain ⟨others, hothers, rfl⟩ := Option.map_eq_some_iff.mp hnodes
  obtain ⟨between, hbetween, hothers⟩ := Option.bind_eq_some_iff.mp hothers
  obtain ⟨after, hafter, rfl⟩ := Option.map_eq_some_iff.mp hothers
  have hseqs : (Code.seqs (start :: inner ++ [stop])).Walks text
      ((Regular.seqs (Regular.seqs before :: between ++ [Regular.seqs after])).Moves text) :=
    .seqs (.cons (walks_of_delegate? hstart hbefore hfirst)
      (List.rel_append (walks_each heach hinner hbetween)
        (.cons (walks_of_delegate? hstop hafter hlast) .nil)))
  refine hseqs.congr fun p q => ?_
  rw [Regular.Moves, Regular.Moves, List.cons_append, Regular.reach_seqs_cons,
    Regular.reach_seqs_append, Regular.reach_seqs_append, Regular.reach_seqs_append]
  rfl

/-- A sequence, of which the ends are handed over, walks as its expression moves. -/
theorem walks_of_assemble? {code : Code} (heach : ∀ part ∈ parts, part.WalksAs text slots)
    (hcode : assemble? [] .every parts (compileEach [] slots .every parts) = some code)
    (hnodes : Tree.regulars? parts = some nodes) :
    code.Walks text ((Regular.seqs nodes).Moves text) := by
  obtain ⟨start, hstart, hcode⟩ := Option.bind_eq_some_iff.mp hcode
  obtain ⟨inner, hinner, hcode⟩ := Option.bind_eq_some_iff.mp hcode
  obtain ⟨stop, hstop, hcode⟩ := Option.bind_eq_some_iff.mp hcode
  obtain rfl := Option.some.inj hcode
  have hlast := allConst_plainSuffix (parts.drop (plainPrefix [] parts))
  rw [List.length_drop, List.drop_drop] at hlast
  rw [compileEach_eq_map, ← List.map_drop, ← List.map_take, List.mapM_map] at hinner
  refine walks_of_assemble?_parts (fun part hpart => heach part ?_) hstart
    (allConst_plainPrefix parts) hinner hstop hlast ?_
  · exact List.mem_of_mem_drop (List.mem_of_mem_take hpart)
  · rw [← List.drop_drop, List.take_append_drop, List.take_append_drop]
    exact hnodes

mutual

/-- Among alternatives that need backtracking, a pattern that needs none is tried at the positions
    its expression reaches, and at no others. -/
theorem Tree.walksAs : ∀ a : Tree, a.isHard [] = false → a.steady = true → a.WalksAs text slots
  | .empty, _, _, code, node, hcode, hnode => by
    rw [compile?, if_neg (by simp)] at hcode
    obtain rfl := Option.some.inj hcode
    obtain rfl := Option.some.inj hnode
    exact (Code.Walks.pass text).congr fun p q => List.mem_singleton.symm
  | .set members, _, _, code, node, hcode, hnode => by
    rw [compile?, if_neg (by simp)] at hcode
    obtain rfl := Option.some.inj hnode
    exact walks_of_delegate? hcode rfl rfl
  | .look condition, _, _, code, node, hcode, hnode => by
    rw [compile?, if_neg (by simp)] at hcode
    obtain rfl := Option.some.inj hcode
    obtain rfl := Option.some.inj hnode
    exact .any fun p q r hq hr => (Regular.moves_look hq).trans (Regular.moves_look hr).symm
  | .concat parts, hhard, hsteady, code, node, hcode, hnode => by
    rw [compile?, if_neg (by simp)] at hcode
    obtain ⟨nodes, hnodes, rfl⟩ := Option.map_eq_some_iff.mp hnode
    exact walks_of_assemble? (walksAsEach parts hhard hsteady) hcode hnodes
  | .alt branches, hhard, hsteady, code, node, hcode, hnode => by
    rw [compile?, if_neg (by simp)] at hcode
    obtain ⟨nodes, hnodes, rfl⟩ := Option.map_eq_some_iff.mp hnode
    rw [alternatives?, if_neg (by simp), compileEach_eq_map, List.mapM_map] at hcode
    obtain ⟨codes, hcodes, rfl⟩ := Option.map_eq_some_iff.mp hcode
    exact .choices (walks_each (walksAsEach branches hhard hsteady) hcodes hnodes)
  | .group index a, hhard, hsteady, code, node, hcode, hnode => by
    rw [compile?, if_neg (by simp)] at hcode
    obtain ⟨inner, hinner, rfl⟩ := Option.map_eq_some_iff.mp hcode
    obtain ⟨expression, hexpression, rfl⟩ := Option.map_eq_some_iff.mp hnode
    have hwalks := walksAs a (Bool.or_eq_false_iff.mp hhard).1 hsteady hinner hexpression
    refine ((Code.Walks.save text _).seq (hwalks.seq (.save text _))).congr fun p q => ?_
    simp only [exists_eq_left, eq_comm (a := q), exists_eq_right]
    rfl
  | .rep loop least greatest greedy a, hhard, hsteady, code, node, hcode, hnode => by
    rw [compile?, if_neg (by simp)] at hcode
    obtain ⟨inner, hinner, rfl⟩ := Option.map_eq_some_iff.mp hcode
    obtain ⟨hbounds, expression, hexpression, rfl⟩ := bounds_of_regular? hnode
    obtain ⟨hbounded, hsteady⟩ := Bool.and_eq_true_iff.mp hsteady
    have hevery : repeatDemand .every least greatest = .every := by
      unfold repeatDemand
      split <;> rfl
    rw [hevery] at hinner
    have hwalks := walksAs a hhard hsteady hinner hexpression
    have hsized : a.Sized text expression := a.sized hexpression
    refine (hwalks.repetition greedy (fun hnone => ?_) hbounds _).congr fun p q =>
      (Regular.moves_repeated_iff hbounds fun hempty p q => hsized.eq_of_empty hempty).symm
    have hsize : a.minSize ≠ 0 := by simpa [hnone] using hbounded
    refine ⟨by simpa using hsize, fun p q hmoves => ?_⟩
    have hle := hsized.le hmoves
    have hend := hmoves.le
    omega

theorem Tree.walksAsEach : ∀ parts : List Tree, Tree.anyHard [] parts = false →
    Tree.allSteady parts = true → ∀ part ∈ parts, part.WalksAs text slots
  | [], _, _, _, hpart => nomatch hpart
  | a :: rest, hhard, hsteady, part, hpart => by
    obtain ⟨hfirst, hrest⟩ := Bool.or_eq_false_iff.mp hhard
    obtain ⟨hsteadyFirst, hsteadyRest⟩ := Bool.and_eq_true_iff.mp hsteady
    rcases List.mem_cons.mp hpart with heq | hpart
    · exact heq ▸ walksAs a hfirst hsteadyFirst
    · exact walksAsEach rest hrest hsteadyRest part hpart

end

end Patternwork.Backtrack
