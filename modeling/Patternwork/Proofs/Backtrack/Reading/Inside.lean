import Patternwork.Proofs.Backtrack.Reading.Element

namespace Patternwork.Backtrack

/-- What opened a group, with `extra` characters more in the text behind it. -/
def Opening.shift (extra : Nat) : Opening → Opening
  | .conditional tested start => .conditional tested (start + extra)
  | opening => opening

def Enclosing.shift (extra : Nat) (enclosing : Enclosing) : Enclosing :=
  { enclosing with opening := enclosing.opening.shift extra }

/-- What has been read of a pattern, if it is read inside the groups `outer` and `extra`
    characters come after it. -/
def Progress.inside (outer : List Enclosing) (extra : Nat) (progress : Progress) : Progress :=
  { progress with enclosing := progress.enclosing.map (Enclosing.shift extra) ++ outer }

variable {progress next : Progress} {outer : List Enclosing} {extra before after : Nat}

/-- The element opens a group, or asks whether there is room for one. -/
def Token.opens : Token → Bool
  | leaf .. | reference .. | bar => false
  | groupReference .. | opening _ | group _ | «scoped» _ | switch .. | tested _ => true

/-- How many groups around are too many for a token. -/
def Token.limit (progress : Progress) (token : Token) : Nat :=
  if token.opens then nestLimit - (progress.enclosing.length + 1) else nestLimit

/-- How many groups around are too many for what closes a group in `depth` others: after a
    condition the branches are opened. -/
def Opening.limit (depth : Nat) : Opening → Nat
  | .condition => nestLimit - (depth + 1)
  | _ => nestLimit

def Element.limit (progress : Progress) : Element → Nat
  | token found => found.limit progress
  | close _ =>
    match progress.enclosing with
    | [] => nestLimit
    | innermost :: enclosing => innermost.opening.limit enclosing.length

theorem Token.nestLimit_le (progress : Progress) (token : Token) :
    nestLimit ≤ token.limit progress + (progress.enclosing.length + 1) := by
  unfold Token.limit
  split <;> omega

theorem Opening.nestLimit_le (depth : Nat) (opening : Opening) :
    nestLimit ≤ opening.limit depth + (depth + 1) := by
  unfold Opening.limit
  split <;> omega

theorem Element.nestLimit_le (progress : Progress) (element : Element) :
    nestLimit ≤ element.limit progress + (progress.enclosing.length + 1) := by
  cases element with
  | token found => exact found.nestLimit_le progress
  | close =>
    unfold Element.limit
    cases progress.enclosing with
    | nil => exact Nat.le_add_right ..
    | cons innermost enclosing =>
      exact Nat.le_trans (innermost.opening.nestLimit_le enclosing.length) (Nat.le_succ _)

namespace Progress

theorem inside_nil (progress : Progress) (hclosed : progress.enclosing = []) (outer : List Enclosing)
    (extra : Nat) : progress.inside outer extra = { progress with enclosing := outer } := by
  simp [inside, hclosed]

theorem inside_of_closed (hclosed : progress.enclosing = []) (extra : Nat) :
    progress.inside [] extra = progress := by
  rw [progress.inside_nil hclosed, ← hclosed]

theorem length_inside (progress : Progress) (outer : List Enclosing) (extra : Nat) :
    (progress.inside outer extra).enclosing.length =
      progress.enclosing.length + outer.length := by
  simp [inside]

theorem add_inside (progress : Progress) (a : Tree) :
    (progress.inside outer extra).add a = (progress.add a).inside outer extra := by
  cases a <;> rfl

theorem addRepeated?_inside (progress : Progress) (a : Tree) (repetition : Option Quantifier) :
    (progress.inside outer extra).addRepeated? a repetition =
      (progress.addRepeated? a repetition).map (inside outer extra) := by
  cases repetition with
  | none => exact congrArg some (add_inside progress a)
  | some quantifier =>
    unfold addRepeated?
    dsimp only
    split
    · exact congrArg some (add_inside { progress with loops := progress.loops + 1 } _)
    · rfl

theorem openAs?_inside (progress : Progress) (opening : Opening) :
    (progress.inside outer extra).openAs? (opening.shift extra) =
      if outer.length < nestLimit - (progress.enclosing.length + 1) then
        (progress.openAs? opening).map (inside outer extra)
      else none := by
  unfold openAs?
  rw [length_inside]
  split
  next hroom =>
    rw [if_pos (by omega), if_pos (by omega)]
    rfl
  next hroom => rw [if_neg (by omega)]

theorem find?_inside (progress : Progress) (target : Target) :
    target.find? (progress.inside outer extra) =
      (target.find? progress).map fun found => (found.1.inside outer extra, found.2) := by
  have hrefer (index : Nat) : (progress.inside outer extra).refer? index =
      (progress.refer? index).map (inside outer extra) := by
    by_cases hle : index ≤ progress.groups <;> simp [refer?, inside, hle]
  cases target with
  | named name =>
    change (progress.groupNamed? name).bind _ = _
    unfold Target.find?
    dsimp only
    cases progress.groupNamed? name with
    | none => rfl
    | some index =>
      rw [Option.bind_some, Option.bind_some, hrefer, Option.map_map, Option.map_map]
      rfl
  | numbered index =>
    unfold Target.find?
    dsimp only
    rw [hrefer, Option.map_map, Option.map_map]
    rfl

end Progress

theorem Mark.shift_opening (extra : Nat) (mark : Mark) : mark.opening.shift extra = mark.opening := by
  cases mark <;> rfl

/-- What a token adds to a pattern it adds to it inside groups, if there is room for it. -/
theorem Token.act?_inside (haround : outer.length < nestLimit) (token : Token) :
    token.act? (progress.inside outer extra) (after + extra) =
      if outer.length < token.limit progress then
        (token.act? progress after).map (Progress.inside outer extra)
      else none := by
  have hlimit (hopens : token.opens = true) :
      token.limit progress = nestLimit - (progress.enclosing.length + 1) := if_pos hopens
  have hopen : (progress.inside outer extra).openAs? .atomic =
      if outer.length < nestLimit - (progress.enclosing.length + 1) then
        (progress.openAs? .atomic).map (Progress.inside outer extra)
      else none := progress.openAs?_inside .atomic
  have hreference (target : Target) (repetition : Option Quantifier) :
      ((target.find? (progress.inside outer extra)).bind fun found =>
        found.1.addRepeated? (.backref found.2) repetition) =
      ((target.find? progress).bind fun found =>
        found.1.addRepeated? (.backref found.2) repetition).map (Progress.inside outer extra) := by
    rw [Progress.find?_inside, Option.bind_map, Option.map_bind]
    exact Option.bind_congr fun found _ => found.1.addRepeated?_inside _ _
  cases token with
  | leaf a repetition =>
    exact (progress.addRepeated?_inside a.tree repetition).trans (if_pos haround).symm
  | reference target repetition =>
    exact (hreference target repetition).trans (if_pos haround).symm
  | groupReference name repetition =>
    rw [hlimit rfl, Token.act?, Token.act?, hreference, hopen]
    split
    · cases progress.openAs? .atomic <;> rfl
    · rfl
  | opening mark =>
    have hmark : (progress.inside outer extra).openAs? (mark.opening.shift extra) = _ :=
      progress.openAs?_inside mark.opening
    rwa [mark.shift_opening, ← hlimit rfl] at hmark
  | group name? =>
    rw [hlimit rfl]
    exact Progress.openAs?_inside
      { progress with
        groups := progress.groups + 1
        names := (name?.map fun name => (name, progress.groups + 1)).toList ++ progress.names }
      (.group (progress.groups + 1))
  | «scoped» modes =>
    rw [hlimit rfl]
    exact Progress.openAs?_inside { progress with modes } (.scoped progress.modes)
  | switch modes repetition =>
    rw [hlimit rfl, Token.act?, Token.act?, hopen]
    split
    · cases progress.openAs? .atomic
      · rfl
      · exact Progress.addRepeated?_inside { progress with modes } .empty repetition
    · rfl
  | tested target =>
    rw [hlimit rfl, Token.act?, Token.act?, Progress.find?_inside, Option.bind_map]
    cases hfind : target.find? progress with
    | none => simp
    | some found =>
      obtain ⟨noted, index⟩ := found
      obtain ⟨referenced, numbered, rfl⟩ := eq_of_find? hfind
      exact Progress.openAs?_inside { progress with referenced, numbered }
        (.conditional (.backref index) after)
  | bar => exact (if_pos haround).symm

theorem Progress.close?_inside (haround : outer.length < nestLimit) (progress : Progress)
    (inner : Tree) (repetition : Option Quantifier) (opening : Opening) :
    (progress.inside outer extra).close? inner (before + extra) (after + extra) repetition
        (opening.shift extra) =
      if outer.length < opening.limit progress.enclosing.length then
        (progress.close? inner before after repetition opening).map (inside outer extra)
      else none := by
  cases opening with
  | condition => exact progress.openAs?_inside (.conditional inner after)
  | «scoped» modes =>
    refine Eq.trans ?_ (if_pos haround).symm
    exact addRepeated?_inside { progress with modes } inner repetition
  | conditional tested start =>
    refine Eq.trans ?_ (if_pos haround).symm
    simp only [Opening.shift, close?, Nat.add_right_cancel_iff]
    split
    · rfl
    · exact progress.addRepeated?_inside _ _
  | group | ahead | behind | atomic =>
    refine Eq.trans ?_ (if_pos haround).symm
    exact progress.addRepeated?_inside _ _

/-- What an element adds to a pattern it adds to it inside groups, if there is room for it and it
    does not close one of them. -/
theorem Element.act?_inside (haround : outer.length < nestLimit) (element : Element)
    (hopen : ∀ repetition, element = close repetition → progress.enclosing ≠ []) :
    element.act? (progress.inside outer extra) (before + extra) (after + extra) =
      if outer.length < element.limit progress then
        (element.act? progress before after).map (Progress.inside outer extra)
      else none := by
  cases element with
  | token found => exact found.act?_inside haround
  | close repetition =>
    obtain ⟨innermost, enclosing, henclosing⟩ :=
      List.exists_cons_of_ne_nil (hopen repetition rfl)
    have hinside : (progress.inside outer extra).enclosing =
        innermost.shift extra :: (enclosing.map (Enclosing.shift extra) ++ outer) := by
      simp [Progress.inside, henclosing]
    rw [Element.act?, Element.act?, Progress.closeGroup?, Progress.closeGroup?, Element.limit]
    simp only [hinside, henclosing]
    change progress.inner?.bind _ = _
    cases progress.inner? with
    | none => simp
    | some inner =>
      exact Progress.close?_inside haround { progress with enclosing, branches := innermost.branches }
        inner repetition innermost.opening

theorem Progress.inside_zero (progress : Progress) : progress.inside [] 0 = progress := by
  have hshift (enclosing : Enclosing) : enclosing.shift 0 = enclosing := by
    obtain ⟨opening, branches⟩ := enclosing
    cases opening <;> rfl
  simp [inside, funext hshift]

theorem ne_nil_of_closeGroup? {repetition : Option Quantifier}
    (hnext : progress.closeGroup? before after repetition = some next) :
    progress.enclosing ≠ [] := by
  intro hclosed
  simp [Progress.closeGroup?, hclosed] at hnext

/-- There is room for an element that is read without groups around it. -/
theorem Element.limit_pos {element : Element}
    (hnext : element.act? progress before after = some next) : 0 < element.limit progress := by
  have hinside : element.act? (progress.inside [] 0) (before + 0) (after + 0) = _ :=
    element.act?_inside (by decide) fun repetition heq =>
      ne_nil_of_closeGroup? (heq ▸ hnext)
  rw [Progress.inside_zero, Nat.add_zero, Nat.add_zero, hnext] at hinside
  exact (Option.ite_none_right_eq_some.mp hinside.symm).1

theorem enclosing_of_addRepeated? {a : Tree} {repetition : Option Quantifier}
    (hnext : progress.addRepeated? a repetition = some next) :
    next.enclosing = progress.enclosing := by
  have hadd (progress : Progress) (a : Tree) :
      (progress.add a).enclosing = progress.enclosing := by
    cases a <;> rfl
  cases repetition with
  | none =>
    obtain rfl := Option.some.inj hnext
    exact hadd progress a
  | some quantifier =>
    obtain ⟨_, hnext⟩ := Option.ite_none_right_eq_some.mp hnext
    obtain rfl := Option.some.inj hnext
    exact hadd { progress with loops := progress.loops + 1 } _

theorem enclosing_of_openAs? {opening : Opening}
    (hnext : progress.openAs? opening = some next) :
    next.enclosing = ⟨opening, progress.branches⟩ :: progress.enclosing := by
  obtain ⟨_, hnext⟩ := Option.ite_none_right_eq_some.mp hnext
  rw [← Option.some.inj hnext]

/-- A token leaves the open groups as they are, and then it does not count how much of the text is
    left, or it opens one more. -/
theorem Token.enclosing_of_act? {token : Token} (hnext : token.act? progress after = some next) :
    next.enclosing = progress.enclosing ∧ (∀ other, token.act? progress other = some next) ∨
      ∃ innermost, next.enclosing = innermost :: progress.enclosing := by
  cases token with
  | leaf a repetition => exact .inl ⟨enclosing_of_addRepeated? hnext, fun _ => hnext⟩
  | reference target repetition =>
    obtain ⟨found, hfind, hadd⟩ := Option.bind_eq_some_iff.mp hnext
    obtain ⟨_, _, heq⟩ := eq_of_find? hfind
    refine .inl ⟨(enclosing_of_addRepeated? hadd).trans ?_, fun _ => hnext⟩
    rw [heq]
  | groupReference name repetition =>
    obtain ⟨_, _, hread⟩ := Option.bind_eq_some_iff.mp hnext
    obtain ⟨found, hfind, hadd⟩ := Option.bind_eq_some_iff.mp hread
    obtain ⟨_, _, heq⟩ := eq_of_find? hfind
    refine .inl ⟨(enclosing_of_addRepeated? hadd).trans ?_, fun _ => hnext⟩
    rw [heq]
  | opening mark => exact .inr ⟨_, enclosing_of_openAs? hnext⟩
  | group name? =>
    rw [Token.act?, Progress.openNumbered?] at hnext
    have henclosing := enclosing_of_openAs? hnext
    exact .inr ⟨_, henclosing⟩
  | «scoped» modes =>
    rw [Token.act?] at hnext
    have henclosing := enclosing_of_openAs? hnext
    exact .inr ⟨_, henclosing⟩
  | switch modes repetition =>
    obtain ⟨_, _, hadd⟩ := Option.bind_eq_some_iff.mp hnext
    have henclosing := enclosing_of_addRepeated? hadd
    exact .inl ⟨henclosing, fun _ => hnext⟩
  | tested target =>
    obtain ⟨found, hfind, hopen⟩ := Option.bind_eq_some_iff.mp hnext
    obtain ⟨_, _, heq⟩ := eq_of_find? hfind
    rw [heq] at hopen
    have henclosing := enclosing_of_openAs? hopen
    exact .inr ⟨_, henclosing⟩
  | bar =>
    obtain rfl := Option.some.inj hnext
    exact .inl ⟨rfl, fun _ => rfl⟩

/-- What closes a group leaves the others as they are, and then it does not count how much of the
    text is left, or it opens another one. -/
theorem Progress.enclosing_of_close? {inner : Tree} {repetition : Option Quantifier}
    {opening : Opening} (hnext : progress.close? inner before after repetition opening = some next) :
    next.enclosing = progress.enclosing ∧
        (∀ other, progress.close? inner before other repetition opening = some next) ∨
      ∃ innermost, next.enclosing = innermost :: progress.enclosing := by
  cases opening with
  | condition => exact .inr ⟨_, enclosing_of_openAs? hnext⟩
  | «scoped» modes =>
    have hadd := hnext
    rw [Progress.close?] at hadd
    have henclosing := enclosing_of_addRepeated? hadd
    exact .inl ⟨henclosing, fun _ => hnext⟩
  | conditional tested start =>
    obtain ⟨_, hadd⟩ := Option.ite_none_left_eq_some.mp hnext
    exact .inl ⟨enclosing_of_addRepeated? hadd, fun _ => hnext⟩
  | group | ahead | behind | atomic =>
    exact .inl ⟨enclosing_of_addRepeated? hnext, fun _ => hnext⟩

theorem exists_of_closeGroup? {repetition : Option Quantifier}
    (hnext : progress.closeGroup? before after repetition = some next) :
    ∃ innermost enclosing inner, progress.enclosing = innermost :: enclosing ∧
      ∀ other, progress.closeGroup? before other repetition =
        ({ progress with enclosing, branches := innermost.branches } : Progress).close? inner before
          other repetition innermost.opening := by
  obtain ⟨innermost, enclosing, henclosing⟩ :=
    List.exists_cons_of_ne_nil (ne_nil_of_closeGroup? hnext)
  simp only [Progress.closeGroup?, henclosing] at hnext ⊢
  obtain ⟨inner, hinner, _⟩ := Option.bind_eq_some_iff.mp hnext
  exact ⟨innermost, enclosing, inner, rfl, fun other => by rw [hinner, Option.bind_some]⟩

/-- A group is closed by a parenthesis only, and one parenthesis closes one. -/
theorem Element.length_le_of_act? {element : Element}
    (hnext : element.act? progress before after = some next) :
    progress.enclosing.length ≤ next.enclosing.length ∨
      (∃ repetition, element = close repetition) ∧
        progress.enclosing.length ≤ next.enclosing.length + 1 := by
  cases element with
  | token found =>
    rcases found.enclosing_of_act? hnext with ⟨henclosing, _⟩ | ⟨innermost, henclosing⟩ <;>
      simp [henclosing]
  | close repetition =>
    obtain ⟨innermost, enclosing, inner, henclosing, hclose⟩ := exists_of_closeGroup? hnext
    refine .inr ⟨⟨repetition, rfl⟩, ?_⟩
    rw [Element.act?, hclose] at hnext
    rcases Progress.enclosing_of_close? hnext with ⟨hleft, _⟩ | ⟨_, hleft⟩ <;>
      simp [henclosing, hleft]

/-- Where no group is open after an element, it does not count how much of the text is left. -/
theorem Element.act?_of_closed {element : Element}
    (hnext : element.act? progress before after = some next) (hclosed : next.enclosing = [])
    (other : Nat) : element.act? progress before other = some next := by
  cases element with
  | token found =>
    rcases found.enclosing_of_act? hnext with ⟨_, hother⟩ | ⟨innermost, henclosing⟩
    · exact hother other
    · simp [henclosing] at hclosed
  | close repetition =>
    obtain ⟨innermost, enclosing, inner, henclosing, hclose⟩ := exists_of_closeGroup? hnext
    rw [Element.act?, hclose] at hnext ⊢
    rcases Progress.enclosing_of_close? hnext with ⟨_, hother⟩ | ⟨_, hleft⟩
    · exact hother other
    · simp [hleft] at hclosed

theorem Element.act?_inside_of_closed {element : Element}
    (hnext : element.act? progress before after = some next) (hclosed : next.enclosing = [])
    (extra other : Nat) :
    element.act? (progress.inside [] extra) (before + extra) other = some next := by
  have hinside : element.act? (progress.inside [] extra) (before + extra) (other + extra) = _ :=
    element.act?_inside (by decide) fun repetition heq => ne_nil_of_closeGroup? (heq ▸ hnext)
  rw [List.length_nil, if_pos (element.limit_pos hnext), element.act?_of_closed hnext hclosed,
    Option.map_some, Progress.inside_of_closed hclosed] at hinside
  exact element.act?_of_closed hinside hclosed other

end Patternwork.Backtrack
