import Patternwork.Proofs.Backtrack.Reading.Assembled

namespace Patternwork.Backtrack

mutual

/-- The groups and loops of a pattern are among the first ones. -/
def Tree.Within (groups loops : Nat) : Tree → Prop
  | .empty | .set _ | .look _ | .keepOut | .searchStart => True
  | .concat parts => WithinAll groups loops parts
  | .alt branches => WithinAll groups loops branches
  | .group index a => 1 ≤ index ∧ index ≤ groups ∧ a.Within groups loops
  | .rep loop _ _ _ a => loop < loops ∧ a.Within groups loops
  | .ahead _ a | .behind _ a | .atomic a => a.Within groups loops
  | .backref index | .groupSet index => index ≤ groups
  | .conditional condition yes no =>
    condition.Within groups loops ∧ yes.Within groups loops ∧ no.Within groups loops

def Tree.WithinAll (groups loops : Nat) : List Tree → Prop
  | [] => True
  | a :: rest => a.Within groups loops ∧ WithinAll groups loops rest

end

variable {groups loops : Nat}

theorem Tree.withinAll_iff {parts : List Tree} :
    WithinAll groups loops parts ↔ ∀ a ∈ parts, a.Within groups loops := by
  induction parts with
  | nil => simp [WithinAll]
  | cons a rest ih => simp [WithinAll, ih]

mutual

theorem Tree.within_mono {more further : Nat} (hgroups : groups ≤ more) (hloops : loops ≤ further) :
    ∀ a : Tree, a.Within groups loops → a.Within more further
  | .empty, _ | .set _, _ | .look _, _ | .keepOut, _ | .searchStart, _ => trivial
  | .concat parts, hparts => withinAll_mono hgroups hloops parts hparts
  | .alt branches, hbranches => withinAll_mono hgroups hloops branches hbranches
  | .group _ a, ⟨hpos, hle, ha⟩ =>
    ⟨hpos, Nat.le_trans hle hgroups, within_mono hgroups hloops a ha⟩
  | .rep _ _ _ _ a, ⟨hlt, ha⟩ =>
    ⟨Nat.lt_of_lt_of_le hlt hloops, within_mono hgroups hloops a ha⟩
  | .ahead _ a, ha | .behind _ a, ha | .atomic a, ha => within_mono hgroups hloops a ha
  | .backref _, hle | .groupSet _, hle => Nat.le_trans hle hgroups
  | .conditional condition yes no, ⟨hcondition, hyes, hno⟩ =>
    ⟨within_mono hgroups hloops condition hcondition, within_mono hgroups hloops yes hyes,
      within_mono hgroups hloops no hno⟩

theorem Tree.withinAll_mono {more further : Nat} (hgroups : groups ≤ more)
    (hloops : loops ≤ further) :
    ∀ parts : List Tree, WithinAll groups loops parts → WithinAll more further parts
  | [], _ => trivial
  | a :: rest, ⟨ha, hrest⟩ =>
    ⟨within_mono hgroups hloops a ha, withinAll_mono hgroups hloops rest hrest⟩

end

theorem Tree.within_joinParts {parts : List Tree} (hparts : ∀ a ∈ parts, a.Within groups loops) :
    (joinParts parts).Within groups loops := by
  match parts with
  | [] => exact trivial
  | [a] => exact hparts a (List.mem_singleton.mpr rfl)
  | a :: b :: rest =>
    refine Tree.withinAll_iff.mpr fun c hc => hparts c ?_
    exact List.mem_reverse.mp hc

/-- What a group holds so far has its numbers among the first ones. -/
structure Branches.Within (groups loops : Nat) (branches : Branches) : Prop where
  done : ∀ a ∈ branches.done, a.Within groups loops
  parts : ∀ a ∈ branches.parts, a.Within groups loops

theorem Branches.Within.join {branches : Branches} (hwithin : branches.Within groups loops) :
    branches.join.Within groups loops := by
  have hlast := Tree.within_joinParts hwithin.parts
  unfold Branches.join
  split
  next => exact hlast
  next =>
    refine Tree.withinAll_iff.mpr fun a ha => ?_
    rcases List.mem_cons.mp (List.mem_reverse.mp ha) with rfl | ha
    · exact hlast
    · exact hwithin.done a ha

theorem Branches.Within.mono {branches : Branches} {more further : Nat}
    (hwithin : branches.Within groups loops) (hgroups : groups ≤ more) (hloops : loops ≤ further) :
    branches.Within more further :=
  ⟨fun a ha => Tree.within_mono hgroups hloops a (hwithin.done a ha),
    fun a ha => Tree.within_mono hgroups hloops a (hwithin.parts a ha)⟩

def Opening.Within (groups loops : Nat) : Opening → Prop
  | .group index => 1 ≤ index ∧ index ≤ groups
  | .conditional tested _ => tested.Within groups loops
  | .ahead _ | .behind _ | .atomic | .scoped _ | .condition => True

theorem Opening.Within.mono {opening : Opening} {more further : Nat}
    (hwithin : opening.Within groups loops) (hgroups : groups ≤ more) (hloops : loops ≤ further) :
    opening.Within more further := by
  cases opening with
  | group index => exact ⟨hwithin.1, Nat.le_trans hwithin.2 hgroups⟩
  | conditional tested start => exact Tree.within_mono hgroups hloops tested hwithin
  | _ => trivial

theorem Tree.within_splitBranches {a : Tree} (ha : a.Within groups loops) :
    (splitBranches a).1.Within groups loops ∧ (splitBranches a).2.Within groups loops := by
  unfold splitBranches
  split
  case h_1 => exact ⟨trivial, trivial⟩
  case h_2 => exact ⟨ha.1, trivial⟩
  case h_3 => exact ⟨ha.1, ha.2.1⟩
  case h_4 => exact ⟨ha.1, ha.2⟩
  case h_5 => exact ⟨ha, trivial⟩

theorem Tree.within_conditionalTree {condition inner : Tree}
    (hcondition : condition.Within groups loops) (hinner : inner.Within groups loops) :
    (conditionalTree condition inner).Within groups loops := by
  obtain ⟨hyes, hno⟩ := within_splitBranches hinner
  unfold conditionalTree
  generalize splitBranches inner = branches at hyes hno
  -- A reference becomes the test for its group, which has the same number.
  cases condition
  all_goals
    dsimp only
    split
    next => exact hcondition
    next => exact ⟨hcondition, hyes, hno⟩

/-- All that has been read has its numbers among those that were counted. -/
structure Progress.Numbered (progress : Progress) : Prop where
  branches : progress.branches.Within progress.groups progress.loops
  enclosing : ∀ outer ∈ progress.enclosing,
    outer.branches.Within progress.groups progress.loops ∧
      outer.opening.Within progress.groups progress.loops

namespace Progress.Numbered

variable {progress next : Progress} {input rest : List Char}

theorem start (modes : Modes) : Numbered { modes } where
  branches := ⟨by simp, by simp⟩
  enclosing := by simp

/-- More groups and loops may be counted. -/
theorem count (hnumbered : progress.Numbered) {more further : Nat}
    {names : List (List Char × Nat)} (hgroups : progress.groups ≤ more)
    (hloops : progress.loops ≤ further) :
    Numbered { progress with groups := more, loops := further, names } where
  branches := hnumbered.branches.mono hgroups hloops
  enclosing := fun outer houter =>
    ⟨(hnumbered.enclosing outer houter).1.mono hgroups hloops,
      (hnumbered.enclosing outer houter).2.mono hgroups hloops⟩

theorem add (hnumbered : progress.Numbered) {a : Tree}
    (ha : a.Within progress.groups progress.loops) : (progress.add a).Numbered := by
  have hadd : Numbered { progress with branches := progress.branches.add a } :=
    { branches :=
        { done := hnumbered.branches.done
          parts := fun b hb => by
            rcases List.mem_cons.mp hb with rfl | hb
            · exact ha
            · exact hnumbered.branches.parts b hb }
      enclosing := hnumbered.enclosing }
  cases a with
  | empty => exact hnumbered
  | _ => exact hadd

theorem addRepeated? (hnumbered : progress.Numbered) {a : Tree} {repetition : Option Quantifier}
    (hnext : progress.addRepeated? a repetition = some next)
    (ha : a.Within progress.groups progress.loops) : next.Numbered := by
  cases repetition with
  | none =>
    obtain rfl := Option.some.inj hnext
    exact hnumbered.add ha
  | some quantifier =>
    obtain ⟨_, hnext⟩ := Option.ite_none_right_eq_some.mp hnext
    obtain rfl := Option.some.inj hnext
    have hcounted : Numbered { progress with loops := progress.loops + 1 } :=
      hnumbered.count (Nat.le_refl _) (Nat.le_succ progress.loops)
    refine hcounted.add ?_
    split <;>
      exact ⟨Nat.lt_succ_self _, Tree.within_mono (Nat.le_refl _) (Nat.le_succ _) a ha⟩

theorem openAs? (hnumbered : progress.Numbered) {opening : Opening}
    (hnext : progress.openAs? opening = some next)
    (hopening : opening.Within progress.groups progress.loops) : next.Numbered := by
  obtain ⟨_, hnext⟩ := Option.ite_none_right_eq_some.mp hnext
  obtain rfl := Option.some.inj hnext
  refine ⟨⟨by simp, by simp⟩, fun outer houter => ?_⟩
  rcases List.mem_cons.mp houter with rfl | houter
  · exact ⟨hnumbered.branches, hopening⟩
  · exact hnumbered.enclosing outer houter

theorem withModes (hnumbered : progress.Numbered) (modes : Modes) :
    Numbered { progress with modes } := ⟨hnumbered.branches, hnumbered.enclosing⟩

theorem find? (hnumbered : progress.Numbered) {target : Target} {found : Progress × Nat}
    (hfind : target.find? progress = some found) :
    found.1.Numbered ∧ found.2 ≤ found.1.groups := by
  have hrefer {index : Nat} {noted : Progress} (hrefer : progress.refer? index = some noted) :
      noted.Numbered ∧ index ≤ noted.groups := by
    obtain ⟨hle, hnoted⟩ := Option.ite_none_right_eq_some.mp hrefer
    obtain rfl := Option.some.inj hnoted
    exact ⟨⟨hnumbered.branches, hnumbered.enclosing⟩, hle⟩
  cases target with
  | named name =>
    obtain ⟨index, _, hfind⟩ := Option.bind_eq_some_iff.mp hfind
    obtain ⟨noted, hnoted, rfl⟩ := Option.map_eq_some_iff.mp hfind
    exact hrefer hnoted
  | numbered index =>
    obtain ⟨noted, hnoted, rfl⟩ := Option.map_eq_some_iff.mp hfind
    obtain ⟨⟨hbranches, henclosing⟩, hle⟩ := hrefer hnoted
    exact ⟨⟨hbranches, henclosing⟩, hle⟩

theorem addReference (hnumbered : progress.Numbered) {target : Target}
    {repetition : Option Quantifier}
    (hnext : ((target.find? progress).bind fun found =>
      found.1.addRepeated? (.backref found.2) repetition) = some next) : next.Numbered := by
  obtain ⟨found, hfind, hadd⟩ := Option.bind_eq_some_iff.mp hnext
  obtain ⟨hfound, hle⟩ := hnumbered.find? hfind
  exact hfound.addRepeated? hadd hle

theorem token (hnumbered : progress.Numbered) {token : Token} {after : Nat}
    (hnext : token.act? progress after = some next) : next.Numbered := by
  cases token with
  | leaf a repetition => exact hnumbered.addRepeated? hnext (by cases a <;> trivial)
  | reference target repetition => exact hnumbered.addReference hnext
  | groupReference name repetition =>
    obtain ⟨_, _, hread⟩ := Option.bind_eq_some_iff.mp hnext
    exact hnumbered.addReference hread
  | opening mark => exact hnumbered.openAs? hnext (by cases mark <;> trivial)
  | group name? =>
    exact (hnumbered.count (Nat.le_succ progress.groups) (Nat.le_refl progress.loops)).openAs? hnext
      ⟨Nat.succ_pos _, Nat.le_refl _⟩
  | «scoped» modes => exact (hnumbered.withModes modes).openAs? hnext trivial
  | switch modes repetition =>
    obtain ⟨_, _, hadd⟩ := Option.bind_eq_some_iff.mp hnext
    exact (hnumbered.withModes modes).addRepeated? hadd trivial
  | tested target =>
    obtain ⟨found, hfind, hopen⟩ := Option.bind_eq_some_iff.mp hnext
    obtain ⟨hfound, hle⟩ := hnumbered.find? hfind
    exact hfound.openAs? hopen hle
  | bar =>
    obtain rfl := Option.some.inj hnext
    refine ⟨⟨fun a ha => ?_, by simp [Branches.next]⟩, hnumbered.enclosing⟩
    rcases List.mem_cons.mp ha with rfl | ha
    · exact Tree.within_joinParts hnumbered.branches.parts
    · exact hnumbered.branches.done a ha

theorem close? (hnumbered : progress.Numbered) {inner : Tree} {before after : Nat}
    {repetition : Option Quantifier} {opening : Opening}
    (hinner : inner.Within progress.groups progress.loops)
    (hopening : opening.Within progress.groups progress.loops)
    (hnext : progress.close? inner before after repetition opening = some next) :
    next.Numbered := by
  cases opening with
  | group index => exact hnumbered.addRepeated? hnext ⟨hopening.1, hopening.2, hinner⟩
  | ahead | behind | atomic => exact hnumbered.addRepeated? hnext hinner
  | «scoped» modes => exact (hnumbered.withModes modes).addRepeated? hnext hinner
  | condition => exact hnumbered.openAs? hnext hinner
  | conditional tested start =>
    obtain ⟨_, hadd⟩ := Option.ite_none_left_eq_some.mp hnext
    exact hnumbered.addRepeated? hadd (Tree.within_conditionalTree hopening hinner)

theorem closeGroup? (hnumbered : progress.Numbered) {before after : Nat}
    {repetition : Option Quantifier}
    (hnext : progress.closeGroup? before after repetition = some next) : next.Numbered := by
  unfold Progress.closeGroup? at hnext
  cases henclosing : progress.enclosing with
  | nil => simp [henclosing] at hnext
  | cons innermost enclosing =>
    rw [henclosing] at hnext
    obtain ⟨inner, hinner, hnext⟩ := Option.bind_eq_some_iff.mp hnext
    have houter := hnumbered.enclosing
    rw [henclosing] at houter
    obtain ⟨hbranches, hopening⟩ := houter innermost (List.mem_cons_self ..)
    have hclosed : Numbered { progress with enclosing, branches := innermost.branches } :=
      ⟨hbranches, fun outer hmem => houter outer (List.mem_cons_of_mem _ hmem)⟩
    obtain rfl := inner?_eq_some hinner
    exact hclosed.close? hnumbered.branches.join hopening hnext

theorem readNext (hnumbered : progress.Numbered)
    (hread : readNext progress input = some (next, rest)) : next.Numbered := by
  obtain ⟨_, element, _, _, hact⟩ := exists_of_readNext hread
  cases element with
  | token found => exact hnumbered.token hact
  | close repetition => exact hnumbered.closeGroup? hact

theorem readElements (hnumbered : progress.Numbered) {fuel : Nat}
    (hread : readElements fuel progress input = some next) : next.Numbered := by
  induction fuel generalizing progress input with
  | zero => cases hread
  | succ fuel ih =>
    rcases readElements_cases hread with ⟨_, rfl⟩ | ⟨fewer, other, left, hfuel, hnext, hrest⟩
    · exact hnumbered
    · obtain rfl : fewer = fuel := Nat.succ.inj hfuel
      exact ih (hnumbered.readNext hnext) hrest

end Progress.Numbered

/-- A text is read as a pattern whose groups and loops are numbered from the first on. -/
theorem read?_within {text : List Char} {reading : Reading} (hread : read? text = some reading) :
    reading.tree.Within reading.groups reading.loops := by
  obtain ⟨whole, helements, hgives⟩ := read?_eq_some_iff.mp hread
  have hnumbered := (Progress.Numbered.start {}).readElements helements
  rw [hgives.eq]
  exact hnumbered.branches.join

end Patternwork.Backtrack
