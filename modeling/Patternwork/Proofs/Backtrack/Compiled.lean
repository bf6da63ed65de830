import Mathlib.Tactic.SplitIfs
import Patternwork.Proofs.Backtrack.Beside
import Patternwork.Proofs.Backtrack.Numbering

namespace Patternwork.Backtrack

/-- A property that a program has if its parts have it and its numbers are those of the first groups
    and repetitions of a pattern. -/
structure Code.Inherited (groups loops slots : Nat) (property : Code → Prop) : Prop where
  pass : property .pass
  any : ∀ a, property (.any a)
  preferred : ∀ a, property (.preferred a)
  seq : ∀ {a b}, property a → property b → property (.seq a b)
  choice : ∀ {a b}, property a → property b → property (.choice a b)
  star : ∀ greedy {a}, property a → property (.star greedy a)
  guarded : ∀ least greedy {loop a}, loop < loops → property a →
    property (.guarded least greedy (slots + loop) a)
  counted : ∀ least greatest greedy {a}, property a →
    property (.counted least greatest greedy a)
  group : ∀ {index a}, 1 ≤ index → index ≤ groups → property a →
    property (.seq (.save (2 * index)) (.seq a (.save (2 * index + 1))))
  keepOut : property (.save 0)
  back : ∀ steps, property (.back steps)
  ahead : ∀ {a}, property a → property (.ahead a)
  notAhead : ∀ {a}, property a → property (.notAhead a)
  atomic : ∀ {a}, property a → property (.atomic a)
  conditional : ∀ {condition yes no}, property condition → property yes → property no →
    property (.conditional condition yes no)
  backref : ∀ {index}, index ≤ groups → property (.backref index)
  groupSet : ∀ {index}, index ≤ groups → property (.groupSet index)
  searchStart : property .searchStart

/-- What a list is mapped to comes from its members. -/
theorem mem_iff_of_mapM {α β : Type} {f : α → Option β} {members : List α} {found : List β}
    (hfound : members.mapM f = some found) (b : β) : b ∈ found ↔ ∃ a ∈ members, f a = some b := by
  induction members generalizing found with
  | nil =>
    cases hfound
    simp
  | cons a rest ih =>
    rw [List.mapM_cons] at hfound
    obtain ⟨first, hfirst, hfound⟩ := Option.bind_eq_some_iff.mp hfound
    obtain ⟨more, hmore, hfound⟩ := Option.bind_eq_some_iff.mp hfound
    cases hfound
    simp [ih hmore, hfirst, eq_comm]

theorem exists_of_mapM {α β : Type} {f : α → Option β} {members : List α} {found : List β}
    (hfound : members.mapM f = some found) : ∀ a ∈ members, ∃ b, f a = some b := by
  induction members generalizing found with
  | nil => simp
  | cons a rest ih =>
    rw [List.mapM_cons] at hfound
    obtain ⟨first, hfirst, hfound⟩ := Option.bind_eq_some_iff.mp hfound
    obtain ⟨more, hmore, _⟩ := Option.bind_eq_some_iff.mp hfound
    exact List.forall_mem_cons.mpr ⟨⟨first, hfirst⟩, ih hmore⟩

theorem compileEach_eq_map (referenced : List Nat) (slots : Nat) (demand : Demand)
    (trees : List Tree) :
    compileEach referenced slots demand trees = trees.map (compile? referenced slots demand) := by
  induction trees with
  | nil => rfl
  | cons a rest ih => rw [compileEach, List.map_cons, ih]

namespace Code.Inherited

variable {groups loops slots : Nat} {property : Code → Prop} {referenced : List Nat}
  {demand : Demand} {codes : List (Option Code)} {code : Code}

theorem seqs (hproperty : Inherited groups loops slots property) {parts : List Code}
    (hparts : ∀ part ∈ parts, property part) : property (Code.seqs parts) := by
  induction parts with
  | nil => exact hproperty.pass
  | cons part rest ih =>
    obtain ⟨hpart, hrest⟩ := List.forall_mem_cons.mp hparts
    cases rest with
    | nil => exact hpart
    | cons next rest => exact hproperty.seq hpart (ih hrest)

theorem choices (hproperty : Inherited groups loops slots property) {branches : List Code}
    (hbranches : ∀ branch ∈ branches, property branch) : property (Code.choices branches) := by
  induction branches with
  | nil => exact hproperty.pass
  | cons branch rest ih =>
    obtain ⟨hbranch, hrest⟩ := List.forall_mem_cons.mp hbranches
    cases rest with
    | nil => exact hbranch
    | cons next rest => exact hproperty.choice hbranch (ih hrest)

theorem delegate? (hproperty : Inherited groups loops slots property) {parts : List Tree}
    (hcode : Backtrack.delegate? demand parts = some code) : property code := by
  unfold Backtrack.delegate? at hcode
  split at hcode
  next =>
    obtain rfl := Option.some.inj hcode
    exact hproperty.pass
  next =>
    obtain ⟨_, _, hcode⟩ := Option.bind_eq_some_iff.mp hcode
    dsimp only at hcode
    split_ifs at hcode <;> cases hcode
    · exact hproperty.preferred _
    · exact hproperty.any _

theorem assemble? (hproperty : Inherited groups loops slots property) {parts : List Tree}
    (hcodes : ∀ code, some code ∈ codes → property code)
    (hcode : Backtrack.assemble? referenced demand parts codes = some code) : property code := by
  obtain ⟨start, hstart, hcode⟩ := Option.bind_eq_some_iff.mp hcode
  obtain ⟨inner, hinner, hcode⟩ := Option.bind_eq_some_iff.mp hcode
  obtain ⟨stop, hstop, hcode⟩ := Option.bind_eq_some_iff.mp hcode
  cases hcode
  refine hproperty.seqs fun part hpart => ?_
  simp only [List.cons_append, List.mem_cons, List.mem_append, List.not_mem_nil, or_false] at hpart
  rcases hpart with rfl | hpart | rfl
  · exact hproperty.delegate? hstart
  · obtain ⟨_, hmem, rfl⟩ := (mem_iff_of_mapM hinner part).mp hpart
    exact hcodes part (List.mem_of_mem_drop (List.mem_of_mem_take hmem))
  · exact hproperty.delegate? hstop

theorem alternatives? (hproperty : Inherited groups loops slots property) {branches : List Tree}
    (hcodes : ∀ code, some code ∈ codes → property code)
    (hcode : Backtrack.alternatives? referenced demand branches codes = some code) :
    property code := by
  unfold Backtrack.alternatives? at hcode
  split at hcode
  next => exact hproperty.delegate? hcode
  next =>
    obtain ⟨found, hfound, rfl⟩ := Option.map_eq_some_iff.mp hcode
    refine hproperty.choices fun part hpart => ?_
    obtain ⟨_, hmem, rfl⟩ := (mem_iff_of_mapM hfound part).mp hpart
    exact hcodes part hmem

theorem lookBehind? (hproperty : Inherited groups loops slots property) {negated : Bool}
    {a : Tree} {code? : Option Code} (hcodes : ∀ code, code? = some code → property code)
    (hcode : Backtrack.lookBehind? negated a code? = some code) : property code := by
  unfold Backtrack.lookBehind? at hcode
  split at hcode
  next =>
    obtain ⟨inner, hinner, rfl⟩ := Option.map_eq_some_iff.mp hcode
    have hseq := hproperty.seq (hproperty.back a.minSize) (hcodes inner hinner)
    cases negated
    · exact hproperty.ahead hseq
    · exact hproperty.notAhead hseq
  next => cases hcode

theorem lookBehindEach? (hproperty : Inherited groups loops slots property) {negated : Bool}
    {branches : List Tree} (hcodes : ∀ code, some code ∈ codes → property code)
    (hcode : Backtrack.lookBehindEach? negated branches codes = some code) : property code := by
  obtain ⟨looks, hlooks, hcode⟩ := Option.bind_eq_some_iff.mp hcode
  have heach : ∀ look ∈ looks, property look := by
    intro look hlook
    obtain ⟨⟨a, code?⟩, hmem, hlook⟩ := (mem_iff_of_mapM hlooks look).mp hlook
    refine hproperty.lookBehind? (fun code hcode => hcodes code ?_) hlook
    exact hcode ▸ (List.of_mem_zip hmem).2
  cases negated <;> cases hcode
  · exact hproperty.choices heach
  · exact hproperty.seqs heach

theorem repetition (hproperty : Inherited groups loops slots property) (least : Nat)
    (greatest : Option Nat) (greedy nullable : Bool) {loop : Nat} (hloop : loop < loops)
    (hcode : property code) :
    property (Backtrack.repetition least greatest greedy nullable (slots + loop) code) := by
  unfold Backtrack.repetition
  split
  next =>
    cases greedy
    · exact hproperty.choice hproperty.pass hcode
    · exact hproperty.choice hcode hproperty.pass
  next =>
    split
    next => exact hproperty.guarded _ _ hloop hcode
    next =>
      split
      next => exact hproperty.star _ hcode
      next => exact hproperty.seq hcode (hproperty.star _ hcode)
      next => exact hproperty.counted _ _ _ hcode
  next => exact hproperty.counted _ _ _ hcode

mutual

theorem compile? (hproperty : Inherited groups loops slots property) {demand : Demand} :
    ∀ (a : Tree) (code : Code), a.Within groups loops →
      Backtrack.compile? referenced slots demand a = some code → property code
  | a, code, ha, hcode => by
    rw [compile?.eq_def] at hcode
    split at hcode
    next => exact hproperty.delegate? hcode
    next hhard =>
      clear hhard
      split at hcode
      case h_1 =>
        obtain rfl := Option.some.inj hcode
        exact hproperty.pass
      case h_2 => exact hproperty.delegate? hcode
      case h_3 =>
        obtain rfl := Option.some.inj hcode
        exact hproperty.any _
      case h_4 parts => exact hproperty.assemble? (hproperty.compileEach parts ha) hcode
      case h_5 branches =>
        exact hproperty.alternatives? (hproperty.compileEach branches ha) hcode
      case h_6 index a =>
        obtain ⟨inner, hinner, rfl⟩ := Option.map_eq_some_iff.mp hcode
        obtain ⟨hpos, hle, ha⟩ := ha
        exact hproperty.group hpos hle (hproperty.compile? a inner ha hinner)
      case h_7 loop least greatest greedy a =>
        obtain ⟨inner, hinner, rfl⟩ := Option.map_eq_some_iff.mp hcode
        obtain ⟨hlt, ha⟩ := ha
        exact hproperty.repetition _ _ _ _ hlt (hproperty.compile? a inner ha hinner)
      case h_8 negated a =>
        obtain ⟨inner, hinner, rfl⟩ := Option.map_eq_some_iff.mp hcode
        have hinner := hproperty.compile? a inner ha hinner
        cases negated
        · exact hproperty.ahead hinner
        · exact hproperty.notAhead hinner
      case h_9 negated branches =>
        split at hcode
        next =>
          exact hproperty.lookBehind?
            (fun _ => hproperty.alternatives? (hproperty.compileEach branches ha)) hcode
        next => exact hproperty.lookBehindEach? (hproperty.compileEach branches ha) hcode
      case h_10 negated a _ =>
        exact hproperty.lookBehind? (fun inner => hproperty.compile? a inner ha) hcode
      case h_11 a =>
        obtain ⟨inner, hinner, rfl⟩ := Option.map_eq_some_iff.mp hcode
        exact hproperty.atomic (hproperty.compile? a inner ha hinner)
      case h_12 index =>
        obtain rfl := Option.some.inj hcode
        exact hproperty.backref ha
      case h_13 index =>
        obtain rfl := Option.some.inj hcode
        exact hproperty.groupSet ha
      case h_14 =>
        obtain rfl := Option.some.inj hcode
        exact hproperty.keepOut
      case h_15 =>
        obtain rfl := Option.some.inj hcode
        exact hproperty.searchStart
      case h_16 condition yes no =>
        obtain ⟨hcondition, hyes, hno⟩ := ha
        obtain ⟨tested, htested, hcode⟩ := Option.bind_eq_some_iff.mp hcode
        obtain ⟨first, hfirst, hcode⟩ := Option.bind_eq_some_iff.mp hcode
        obtain ⟨second, hsecond, hcode⟩ := Option.bind_eq_some_iff.mp hcode
        cases hcode
        exact hproperty.conditional (hproperty.compile? condition tested hcondition htested)
          (hproperty.compile? yes first hyes hfirst) (hproperty.compile? no second hno hsecond)

theorem compileEach (hproperty : Inherited groups loops slots property) {demand : Demand} :
    ∀ (parts : List Tree), Tree.WithinAll groups loops parts →
      ∀ code, some code ∈ Backtrack.compileEach referenced slots demand parts → property code
  | [], _, code, hcode => by simp [Backtrack.compileEach] at hcode
  | a :: rest, ⟨ha, hrest⟩, code, hcode => by
    rw [Backtrack.compileEach] at hcode
    rcases List.mem_cons.mp hcode with hcode | hcode
    · exact hproperty.compile? a code ha hcode.symm
    · exact hproperty.compileEach rest hrest code hcode

end

end Code.Inherited

variable {groups loops slots : Nat}

theorem Code.inherited_within (hslots : slots = 2 * (groups + 1)) :
    Inherited groups loops slots (Within (slots + loops)) where
  pass := trivial
  any _ := trivial
  preferred _ := trivial
  seq ha hb := ⟨ha, hb⟩
  choice ha hb := ⟨ha, hb⟩
  star _ _ ha := ha
  guarded _ _ _ _ hlt ha := ⟨by omega, by omega, ha⟩
  counted _ _ _ _ ha := ha
  group hpos hle ha := ⟨⟨by omega, by omega⟩, ha, by omega, by omega⟩
  keepOut := ⟨by decide, by omega⟩
  back _ := trivial
  ahead ha := ha
  notAhead ha := ha
  atomic ha := ha
  conditional hcondition hyes hno := ⟨hcondition, hyes, hno⟩
  backref {index} hle := by
    change 2 * index + 1 < slots + loops
    omega
  groupSet {index} hle := by
    change 2 * index < slots + loops
    omega
  searchStart := trivial

/-- A pattern is compiled to a program that uses the slots of its groups and repetitions only. -/
theorem compile?_within {referenced : List Nat} {demand : Demand}
    (hslots : slots = 2 * (groups + 1)) :
    ∀ (a : Tree) (code : Code), a.Within groups loops →
      compile? referenced slots demand a = some code → code.Within (slots + loops) :=
  (Code.inherited_within hslots).compile?

end Patternwork.Backtrack
