import Patternwork.Proofs.Backtrack.Offset
import Patternwork.Proofs.Backtrack.Reading.Rounds

namespace Patternwork.Backtrack

def Opening.renumber (offset : Offset) : Opening → Opening
  | .group index => .group (offset.group index)
  | .conditional tested start => .conditional (tested.renumber offset) start
  | opening => opening

def Branches.renumber (offset : Offset) (branches : Branches) : Branches where
  done := branches.done.map (Tree.renumber offset)
  parts := branches.parts.map (Tree.renumber offset)

def Enclosing.renumber (offset : Offset) (enclosing : Enclosing) : Enclosing where
  opening := enclosing.opening.renumber offset
  branches := enclosing.branches.renumber offset

/-- What has been read of a pattern, if others come before it that give `names` to groups. -/
def Progress.renumber (offset : Offset) (names : List (List Char × Nat)) (progress : Progress) :
    Progress :=
  { progress with
    enclosing := progress.enclosing.map (Enclosing.renumber offset)
    branches := progress.branches.renumber offset
    groups := progress.groups + offset.groups
    loops := progress.loops + offset.loops
    names := progress.names.map (Prod.map id offset.group) ++ names }

variable {offset : Offset} {names : List (List Char × Nat)} {progress next whole : Progress}
  {before after fuel : Nat} {input rest : List Char}

theorem Offset.group_succ (offset : Offset) (index : Nat) :
    offset.group (index + 1) = index + offset.groups + 1 := by
  simp only [group, if_neg (Nat.succ_ne_zero index)]
  omega

theorem joinParts_renumber (parts : List Tree) :
    joinParts (parts.map (Tree.renumber offset)) = (joinParts parts).renumber offset := by
  rcases parts with _ | ⟨a, _ | ⟨b, rest⟩⟩
  · rfl
  · rfl
  · change Tree.concat ((a :: b :: rest).map (Tree.renumber offset)).reverse =
      .concat (Tree.renumberAll offset (a :: b :: rest).reverse)
    rw [Tree.renumberAll_eq, List.map_reverse]

theorem Branches.join_renumber (branches : Branches) :
    (branches.renumber offset).join = branches.join.renumber offset := by
  obtain ⟨done, parts⟩ := branches
  cases done with
  | nil => exact joinParts_renumber parts
  | cons a done =>
    change Tree.alt (joinParts (parts.map _) :: (a :: done).map (Tree.renumber offset)).reverse =
      .alt (Tree.renumberAll offset (joinParts parts :: a :: done).reverse)
    rw [Tree.renumberAll_eq, List.map_reverse, joinParts_renumber]
    rfl

theorem Branches.next_renumber (branches : Branches) :
    (branches.renumber offset).next = branches.next.renumber offset := by
  simp [Branches.next, Branches.renumber, joinParts_renumber]

theorem splitBranches_renumber (a : Tree) :
    splitBranches (a.renumber offset) =
      ((splitBranches a).1.renumber offset, (splitBranches a).2.renumber offset) := by
  cases a with
  | alt branches =>
    match branches with
    | [] | [_] | [_, _] | _ :: _ :: _ :: _ => rfl
  | _ => rfl

theorem conditionalTree_renumber (tested inner : Tree) :
    conditionalTree (tested.renumber offset) (inner.renumber offset) =
      (conditionalTree tested inner).renumber offset := by
  unfold conditionalTree
  rw [splitBranches_renumber]
  obtain ⟨yes, no⟩ := splitBranches inner
  -- A reference becomes the test for its group, and branches are left out if there are none.
  cases tested
  all_goals
    cases yes with
    | empty => cases no <;> rfl
    | _ => rfl

section

variable (offset : Offset) (names : List (List Char × Nat))

namespace Progress

theorem add_renumber (progress : Progress) (a : Tree) :
    (progress.renumber offset names).add (a.renumber offset) =
      (progress.add a).renumber offset names := by
  cases a <;> rfl

theorem addRepeated?_renumber (progress : Progress) (a : Tree) (repetition : Option Quantifier) :
    (progress.renumber offset names).addRepeated? (a.renumber offset) repetition =
      (progress.addRepeated? a repetition).map (renumber offset names) := by
  cases repetition with
  | none => exact congrArg some (progress.add_renumber offset names a)
  | some quantifier =>
    have hrepeatable : isRepeatable (a.renumber offset) = isRepeatable a := by cases a <;> rfl
    have hloops : { progress.renumber offset names with
        loops := (progress.renumber offset names).loops + 1 } =
        ({ progress with loops := progress.loops + 1 } : Progress).renumber offset names := by
      simp only [renumber, Nat.add_right_comm]
    unfold addRepeated?
    rw [hrepeatable, hloops]
    dsimp only
    split
    · refine congrArg some (Eq.trans ?_ (add_renumber offset names _ _))
      cases quantifier.atomic <;> rfl
    · rfl

theorem openAs?_renumber (progress : Progress) (opening : Opening) :
    (progress.renumber offset names).openAs? (opening.renumber offset) =
      (progress.openAs? opening).map (renumber offset names) := by
  unfold openAs?
  simp only [renumber, List.length_map]
  split <;> rfl

theorem openNumbered?_renumber (progress : Progress) (name? : Option (List Char)) :
    (progress.renumber offset names).openNumbered? name? =
      (progress.openNumbered? name?).map (renumber offset names) := by
  rw [openNumbered?, openNumbered?, ← openAs?_renumber]
  cases name? <;> simp [renumber, Opening.renumber, Offset.group_succ, Nat.add_right_comm]

/-- Where no group is referred to by a number, names make no difference. -/
theorem inner?_renumber (hnumbered : progress.numbered = false) :
    (progress.renumber offset names).inner? = progress.inner?.map (Tree.renumber offset) := by
  rw [inner?, inner?]
  simp [renumber, hnumbered, Branches.join_renumber]

end Progress

theorem referenced_of_addRepeated? {a : Tree} {repetition : Option Quantifier}
    (hnext : progress.addRepeated? a repetition = some next) :
    next.referenced = progress.referenced ∧ next.numbered = progress.numbered := by
  have hadd (progress : Progress) (a : Tree) :
      (progress.add a).referenced = progress.referenced ∧
        (progress.add a).numbered = progress.numbered := by
    cases a <;> exact ⟨rfl, rfl⟩
  cases repetition with
  | none =>
    obtain rfl := Option.some.inj hnext
    exact hadd progress a
  | some quantifier =>
    obtain ⟨_, hnext⟩ := Option.ite_none_right_eq_some.mp hnext
    obtain rfl := Option.some.inj hnext
    exact hadd { progress with loops := progress.loops + 1 } _

theorem referenced_of_openAs? {opening : Opening}
    (hnext : progress.openAs? opening = some next) :
    next.referenced = progress.referenced ∧ next.numbered = progress.numbered := by
  obtain ⟨_, hnext⟩ := Option.ite_none_right_eq_some.mp hnext
  rw [← Option.some.inj hnext]
  exact ⟨rfl, rfl⟩

theorem referenced_of_find? {target : Target} {found : Progress × Nat}
    (hfind : target.find? progress = some found) :
    found.1.referenced = found.2 :: progress.referenced := by
  have hrefer {index : Nat} {noted : Progress} (hrefer : progress.refer? index = some noted) :
      noted.referenced = index :: progress.referenced := by
    rw [← Option.some.inj (Option.ite_none_right_eq_some.mp hrefer).2]
  cases target with
  | named name =>
    obtain ⟨index, _, hfind⟩ := Option.bind_eq_some_iff.mp hfind
    obtain ⟨noted, hnoted, rfl⟩ := Option.map_eq_some_iff.mp hfind
    exact hrefer hnoted
  | numbered index =>
    obtain ⟨noted, hnoted, rfl⟩ := Option.map_eq_some_iff.mp hfind
    have hreferenced := hrefer hnoted
    exact hreferenced

/-- What closes a group has the numbers that the group has. -/
theorem Progress.close?_renumber (progress : Progress) (inner : Tree)
    (repetition : Option Quantifier) (opening : Opening) :
    (progress.renumber offset names).close? (inner.renumber offset) before after repetition
        (opening.renumber offset) =
      (progress.close? inner before after repetition opening).map (renumber offset names) := by
  cases opening with
  | group index => exact progress.addRepeated?_renumber offset names (.group index inner) repetition
  | ahead negated =>
    exact progress.addRepeated?_renumber offset names (.ahead negated inner) repetition
  | behind negated =>
    exact progress.addRepeated?_renumber offset names (.behind negated inner) repetition
  | atomic => exact progress.addRepeated?_renumber offset names (.atomic inner) repetition
  | «scoped» modes =>
    exact addRepeated?_renumber offset names { progress with modes } inner repetition
  | condition => exact progress.openAs?_renumber offset names (.conditional inner after)
  | conditional tested start =>
    have hbackref : isBackref (tested.renumber offset) = isBackref tested := by
      cases tested <;> rfl
    simp only [Opening.renumber, close?, hbackref, conditionalTree_renumber]
    split
    · rfl
    · exact progress.addRepeated?_renumber offset names _ _

theorem referenced_of_close? {inner : Tree} {repetition : Option Quantifier} {opening : Opening}
    (hnext : progress.close? inner before after repetition opening = some next) :
    next.referenced = progress.referenced ∧ next.numbered = progress.numbered := by
  cases opening with
  | condition => exact referenced_of_openAs? hnext
  | «scoped» modes =>
    rw [Progress.close?] at hnext
    have hreferenced := referenced_of_addRepeated? hnext
    exact hreferenced
  | conditional tested start =>
    exact referenced_of_addRepeated? (Option.ite_none_left_eq_some.mp hnext).2
  | group | ahead | behind | atomic => exact referenced_of_addRepeated? hnext

/-- A token refers to a group, or it does the same to a pattern with others before it. -/
theorem Token.act?_renumber (token : Token) (hnext : token.act? progress after = some next) :
    (∃ index, next.referenced = index :: progress.referenced) ∨
      (next.referenced = progress.referenced ∧ next.numbered = progress.numbered) ∧
        token.act? (progress.renumber offset names) after =
          some (next.renumber offset names) := by
  cases token with
  | leaf a repetition =>
    have ha : a.tree.renumber offset = a.tree := by cases a <;> rfl
    have hadd := progress.addRepeated?_renumber offset names a.tree repetition
    rw [ha] at hadd
    exact .inr ⟨referenced_of_addRepeated? hnext, hadd.trans (congrArg _ hnext)⟩
  | reference target repetition =>
    obtain ⟨found, hfind, hadd⟩ := Option.bind_eq_some_iff.mp hnext
    exact .inl ⟨_, (referenced_of_addRepeated? hadd).1.trans (referenced_of_find? hfind)⟩
  | groupReference name repetition =>
    obtain ⟨_, _, hread⟩ := Option.bind_eq_some_iff.mp hnext
    obtain ⟨found, hfind, hadd⟩ := Option.bind_eq_some_iff.mp hread
    exact .inl ⟨_, (referenced_of_addRepeated? hadd).1.trans (referenced_of_find? hfind)⟩
  | tested target =>
    obtain ⟨found, hfind, hopen⟩ := Option.bind_eq_some_iff.mp hnext
    exact .inl ⟨_, (referenced_of_openAs? hopen).1.trans (referenced_of_find? hfind)⟩
  | opening mark =>
    have hmark : mark.opening.renumber offset = mark.opening := by cases mark <;> rfl
    have hopen := progress.openAs?_renumber offset names mark.opening
    rw [hmark] at hopen
    exact .inr ⟨referenced_of_openAs? hnext, hopen.trans (congrArg _ hnext)⟩
  | group name? =>
    have hopened := hnext
    rw [Token.act?, Progress.openNumbered?] at hopened
    have hreferenced := referenced_of_openAs? hopened
    exact .inr ⟨hreferenced,
      (progress.openNumbered?_renumber offset names name?).trans (congrArg _ hnext)⟩
  | «scoped» modes =>
    have hopened := hnext
    rw [Token.act?] at hopened
    have hreferenced := referenced_of_openAs? hopened
    have hopen :=
      Progress.openAs?_renumber offset names { progress with modes } (.scoped progress.modes)
    exact .inr ⟨hreferenced, hopen.trans (congrArg _ hnext)⟩
  | switch modes repetition =>
    obtain ⟨room, hroom, hadd⟩ := Option.bind_eq_some_iff.mp hnext
    have hreferenced := referenced_of_addRepeated? hadd
    have hopen : (progress.renumber offset names).openAs? .atomic = _ :=
      progress.openAs?_renumber offset names .atomic
    have hother :=
      Progress.addRepeated?_renumber offset names { progress with modes } .empty repetition
    refine .inr ⟨hreferenced, ?_⟩
    rw [Token.act?, hopen, hroom]
    exact hother.trans (congrArg _ hadd)
  | bar =>
    obtain rfl := Option.some.inj hnext
    refine .inr ⟨⟨rfl, rfl⟩, congrArg some ?_⟩
    simp only [Progress.renumber, Branches.next_renumber]

/-- An element refers to a group, or it does the same to a pattern with others before it. -/
theorem Element.act?_renumber {element : Element} (hnumbered : progress.numbered = false)
    (hnext : element.act? progress before after = some next) :
    (∃ index, next.referenced = index :: progress.referenced) ∨
      (next.referenced = progress.referenced ∧ next.numbered = progress.numbered) ∧
        element.act? (progress.renumber offset names) before after =
          some (next.renumber offset names) := by
  cases element with
  | token found => exact found.act?_renumber offset names hnext
  | close repetition =>
    obtain ⟨innermost, enclosing, henclosing⟩ :=
      List.exists_cons_of_ne_nil (ne_nil_of_closeGroup? hnext)
    have hothers : (progress.renumber offset names).enclosing =
        innermost.renumber offset :: enclosing.map (Enclosing.renumber offset) := by
      simp [Progress.renumber, henclosing]
    have hinner := Progress.inner?_renumber offset names hnumbered
    rw [act?, Progress.closeGroup?] at hnext ⊢
    simp only [henclosing] at hnext
    simp only [hothers]
    obtain ⟨inner, hsome, hclose⟩ := Option.bind_eq_some_iff.mp hnext
    have hreferenced := referenced_of_close? hclose
    refine .inr ⟨hreferenced, ?_⟩
    rw [hinner, hsome]
    exact (Progress.close?_renumber offset names
      { progress with enclosing, branches := innermost.branches } inner repetition
      innermost.opening).trans (congrArg _ hclose)

end

theorem Element.referenced_suffix_of_act? {element : Element}
    (hnext : element.act? progress before after = some next) :
    progress.referenced <:+ next.referenced := by
  cases element with
  | token found =>
    rcases found.act?_renumber ⟨0, 0⟩ [] hnext with ⟨index, hreferenced⟩ | ⟨⟨hreferenced, _⟩, _⟩
    · rw [hreferenced]
      exact List.suffix_cons index _
    · exact hreferenced ▸ List.suffix_refl _
  | close repetition =>
    obtain ⟨innermost, enclosing, inner, _, hclose⟩ := exists_of_closeGroup? hnext
    rw [act?, hclose] at hnext
    exact (referenced_of_close? hnext).1 ▸ List.suffix_refl _

/-- What a pattern has referred to is not forgotten. -/
theorem referenced_suffix_of_readElements
    (hread : readElements fuel progress input = some whole) :
    progress.referenced <:+ whole.referenced := by
  induction fuel generalizing progress input with
  | zero => cases hread
  | succ fuel ih =>
    rcases readElements_cases hread with ⟨_, rfl⟩ | ⟨fewer, next, rest, heq, hnext, hrest⟩
    · exact List.suffix_refl _
    · obtain rfl : fewer = fuel := Nat.succ.inj heq
      obtain ⟨_, element, _, _, hact⟩ := exists_of_readNext hnext
      exact (element.referenced_suffix_of_act? hact).trans (ih hrest)

theorem innermost_renumber (progress : Progress) :
    (progress.renumber offset names).innermost =
      progress.innermost.map (Opening.renumber offset) := by
  rw [Progress.innermost, Progress.innermost, Progress.renumber]
  cases progress.enclosing <;> rfl

theorem scanElement_renumber (modes : Modes) (innermost : Option Opening) (input : List Char) :
    scanElement modes (innermost.map (Opening.renumber offset)) input =
      scanElement modes innermost input := by
  cases input with
  | nil => rfl
  | cons c rest =>
    rw [scanElement, scanElement]
    split
    · cases innermost with
      | none => rfl
      | some opening => cases opening <;> rfl
    · rfl

/-- What comes next refers to a group, or it is the same for a pattern with others before it. -/
theorem readNext_renumber (hnumbered : progress.numbered = false)
    (hnext : readNext progress input = some (next, rest)) :
    (∃ index, next.referenced = index :: progress.referenced) ∨
      (next.referenced = progress.referenced ∧ next.numbered = progress.numbered) ∧
        readNext (progress.renumber offset names) input =
          some (next.renumber offset names, rest) := by
  obtain ⟨before, element, hskip, hscan, hact⟩ := exists_of_readNext hnext
  refine (element.act?_renumber offset names hnumbered hact).imp_right fun ⟨hkept, hother⟩ =>
    ⟨hkept, ?_⟩
  have hskipOther : skip (progress.renumber offset names).modes input = some before := hskip
  have hscanOther : scanElement (progress.renumber offset names).modes
      (progress.renumber offset names).innermost before = some (element, rest) := by
    rw [innermost_renumber, scanElement_renumber]
    exact hscan
  rw [readNext_of_scan hskipOther hscanOther, hother]
  rfl

/-- A pattern that refers to no group is read in the same way with others before it. -/
theorem readElements_renumber (hnumbered : progress.numbered = false)
    (hread : readElements fuel progress input = some whole) (hwhole : whole.referenced = []) :
    whole.numbered = false ∧
      readElements fuel (progress.renumber offset names) input =
        some (whole.renumber offset names) := by
  induction fuel generalizing progress input with
  | zero => cases hread
  | succ fuel ih =>
    rcases readElements_cases hread with ⟨hend, rfl⟩ | ⟨fewer, next, rest, heq, hnext, hrest⟩
    · exact ⟨hnumbered, readElements_of_end (by exact hend) fuel⟩
    · obtain rfl : fewer = fuel := Nat.succ.inj heq
      have hnone : next.referenced = [] := by
        have hsuffix := referenced_suffix_of_readElements hrest
        rwa [hwhole, List.suffix_nil] at hsuffix
      rcases readNext_renumber hnumbered hnext with ⟨index, hrefers⟩ | ⟨⟨_, hkept⟩, hother⟩
      · cases hnone.symm.trans hrefers
      · rw [readElements_succ hother]
        exact ih (hkept.trans hnumbered) hrest

end Patternwork.Backtrack
