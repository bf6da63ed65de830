import Patternwork.Proofs.Regular.Reading.Token

namespace Patternwork.Regular

variable {base p q : Progress} {before b c : Branches}

/-- Branches that are read on their own, and the same read after others: the first of them goes on
    with the branch that was being read. -/
inductive Branches.After (before : Branches) : Branches → Branches → Prop
  | first (parts : List Part) : After before ⟨[], parts⟩ ⟨before.done, parts ++ before.parts⟩
  | later (done parts initial : List Part) :
      After before ⟨done ++ [joinParts initial], parts⟩
        ⟨done ++ joinParts (initial ++ before.parts) :: before.done, parts⟩

theorem Branches.After.add (hafter : before.After b c) (part : Part) :
    before.After (b.add part) (c.add part) := by
  cases hafter with
  | first parts => exact .first (part :: parts)
  | later done parts initial => exact .later done (part :: parts) initial

theorem Branches.After.bar (hafter : before.After b c) : before.After b.next c.next := by
  cases hafter with
  | first parts => exact .later [] [] parts
  | later done parts initial => exact .later (joinParts parts :: done) [] initial

/-- What is read of a text on its own, and what is read of it after other things. -/
inductive Progress.After (base : Progress) : Progress → Progress → Prop
  | outside {b c : Branches} (hbranches : base.branches.After b c) (modes : Modes)
      (names : List (List Char)) :
      After base { branches := b, modes, names }
        { enclosing := base.enclosing, branches := c, modes, names := names ++ base.names }
  | inside {b c : Branches} (hbranches : base.branches.After b c) (inner : List Enclosing)
      (outer : Modes) (captured : Bool) (branches : Branches) (modes : Modes)
      (names : List (List Char)) :
      After base
        { enclosing := inner ++ [⟨b, outer, captured⟩], branches, modes, names }
        { enclosing := inner ++ ⟨c, outer, captured⟩ :: base.enclosing, branches, modes
          names := names ++ base.names }

namespace Progress.After

theorem modes_eq (hafter : base.After p q) : q.modes = p.modes := by
  cases hafter <;> rfl

theorem names_eq (hafter : base.After p q) : q.names = p.names ++ base.names := by
  cases hafter <;> rfl

theorem length_le (hafter : base.After p q) : base.enclosing.length ≤ q.enclosing.length := by
  cases hafter with
  | outside => exact Nat.le_refl _
  | inside =>
    simp only [List.length_append, List.length_cons]
    omega

/-- Nothing has been read yet. -/
theorem refl (base : Progress) : base.After { modes := base.modes } base :=
  .outside (.first []) base.modes []

theorem add (hafter : base.After p q) (part : Part) : base.After (p.add part) (q.add part) := by
  cases hafter with
  | outside hbranches modes names => exact .outside (hbranches.add part) modes names
  | inside hbranches inner outer captured branches modes names =>
    exact .inside hbranches inner outer captured (branches.add part) modes names

theorem bar (hafter : base.After p q) :
    base.After { p with branches := p.branches.next } { q with branches := q.branches.next } := by
  cases hafter with
  | outside hbranches modes names => exact .outside hbranches.bar modes names
  | inside hbranches inner outer captured branches modes names =>
    exact .inside hbranches inner outer captured branches.next modes names

theorem switch (hafter : base.After p q) (modes : Modes) :
    base.After { p with modes } { q with modes } := by
  cases hafter with
  | outside hbranches _ names => exact .outside hbranches modes names
  | inside hbranches inner outer captured branches _ names =>
    exact .inside hbranches inner outer captured branches modes names

theorem name (hafter : base.After p q) (name : List Char) :
    base.After { p with names := name :: p.names } { q with names := name :: q.names } := by
  cases hafter with
  | outside hbranches modes names => exact .outside hbranches modes (name :: names)
  | inside hbranches inner outer captured branches modes names =>
    exact .inside hbranches inner outer captured branches modes (name :: names)

theorem openGroup (hafter : base.After p q) (modes : Modes) (captured : Bool) :
    base.After (p.openGroup modes captured) (q.openGroup modes captured) := by
  cases hafter with
  | outside hbranches outer names => exact .inside hbranches [] outer captured {} modes names
  | inside hbranches inner outer capturedOuter branches outerModes names =>
    exact .inside hbranches (⟨branches, outerModes, captured⟩ :: inner) outer capturedOuter {}
      modes names

/-- A group that the text opened is closed beside the other things as well. -/
theorem closeGroup? {next : Progress} (hafter : base.After p q)
    (hclose : p.closeGroup? = some next) :
    ∃ next', q.closeGroup? = some next' ∧ base.After next next' := by
  cases hafter with
  | outside => cases hclose
  | inside hbranches inner outer captured branches modes names =>
    cases inner with
    | nil =>
      obtain rfl := Option.some.inj hclose
      exact ⟨_, rfl, .outside (hbranches.add _) outer names⟩
    | cons group inner =>
      obtain rfl := Option.some.inj hclose
      exact ⟨_, rfl, .inside hbranches inner outer captured _ group.modes names⟩

/-- The last part is the same, unless there is none on its own. -/
theorem parts_eq (hafter : base.After p q) :
    p.branches.parts = [] ∧ (q.branches.parts = [] ∨ q.branches.parts = base.branches.parts) ∨
      ∃ part parts rest, p.branches.parts = part :: parts ∧ q.branches.parts = part :: rest ∧
        ∀ other, base.After
          { p with branches := { p.branches with parts := other :: parts } }
          { q with branches := { q.branches with parts := other :: rest } } := by
  cases hafter with
  | outside hbranches modes names =>
    cases hbranches with
    | first parts =>
      cases parts with
      | nil => exact .inl ⟨rfl, .inr rfl⟩
      | cons part parts =>
        exact .inr ⟨part, parts, _, rfl, rfl, fun other =>
          .outside (.first (other :: parts)) modes names⟩
    | later done parts initial =>
      cases parts with
      | nil => exact .inl ⟨rfl, .inl rfl⟩
      | cons part parts =>
        exact .inr ⟨part, parts, parts, rfl, rfl, fun other =>
          .outside (.later done (other :: parts) initial) modes names⟩
  | inside hbranches inner outer captured branches modes names =>
    obtain ⟨done, parts⟩ := branches
    cases parts with
    | nil => exact .inl ⟨rfl, .inl rfl⟩
    | cons part parts =>
      exact .inr ⟨part, parts, parts, rfl, rfl, fun other =>
        .inside hbranches inner outer captured ⟨done, other :: parts⟩ modes names⟩

/-- What can be repeated on its own can be repeated after other things, and nothing else. -/
theorem repeatLast? (hafter : base.After p q)
    (hbase : ∀ part ∈ base.branches.parts, part.repeatable = false)
    (least : Nat) (greatest : Option Nat) (greedy : Bool) :
    (p.repeatLast? least greatest greedy = none ∧ q.repeatLast? least greatest greedy = none) ∨
      ∃ next next', p.repeatLast? least greatest greedy = some next ∧
        q.repeatLast? least greatest greedy = some next' ∧ base.After next next' := by
  have hmodes := hafter.modes_eq
  unfold Progress.repeatLast?
  rcases hafter.parts_eq with ⟨hparts, hothers⟩ | ⟨part, parts, rest, hparts, hothers, hother⟩
  · refine .inl ⟨by rw [hparts], ?_⟩
    split
    · rfl
    next part rest hsecond =>
      have hmem : part ∈ base.branches.parts := by
        rcases hothers with hothers | hothers
        · simp [hothers] at hsecond
        · exact hothers ▸ hsecond ▸ List.mem_cons_self ..
      simp [hbase part hmem]
  · rw [hparts, hothers]
    cases hrepeatable : part.repeatable with
    | false => exact .inl ⟨by simp [hrepeatable], by simp [hrepeatable]⟩
    | true =>
      refine .inr ⟨_, _, if_pos hrepeatable, ?_, hother
        { node := repeated least greatest (greedy != p.modes.swapGreed) part.node
          depth := part.depth + 1 }⟩
      simp only [hrepeatable, hmodes, reduceIte]

end Progress.After

/-- What a token adds to what is read of a text on its own, and to what is read of it after other
    things. -/
inductive Token.Applied (base p q : Progress) (token : Token) : Prop
  | both {next next' : Progress} (hfirst : token.act? p = some next)
      (hsecond : token.act? q = some next') (hafter : base.After next next')
  | neither (hfirst : token.act? p = none) (hsecond : token.act? q = none)
  /-- The name of a group has been given before. -/
  | taken {next : Progress} (hfirst : token.act? p = some next)
      (hsecond : token.act? q = none) (hnames : base.names ≠ [])
  /-- The text closes a group that it did not open. -/
  | closes (htoken : token = .close) (hgroups : p.enclosing = [])

theorem Token.applied (hafter : base.After p q)
    (hbase : ∀ part ∈ base.branches.parts, part.repeatable = false) (token : Token) :
    token.Applied base p q := by
  cases token with
  | opening modes captured => exact .both rfl rfl (hafter.openGroup modes captured)
  | named name =>
    have hnames := hafter.names_eq
    have hnext := (hafter.name name).openGroup p.modes true
    by_cases hgiven : name ∈ p.names
    · refine .neither ?_ ?_
      · simp [act?, hgiven]
      · simp [act?, hnames, hgiven]
    · have hfirst : (named name).act? p = some
          (({ p with names := name :: p.names } : Progress).openGroup p.modes true) := by
        simp [act?, hgiven]
      by_cases htaken : name ∈ base.names
      · refine .taken hfirst ?_ (List.ne_nil_of_mem htaken)
        simp [act?, hnames, htaken]
      · refine .both hfirst ?_ hnext
        simp [act?, hnames, hgiven, htaken, hafter.modes_eq]
  | switch modes => exact .both rfl rfl ((hafter.switch modes).add _)
  | close =>
    cases hclose : p.closeGroup? with
    | none =>
      refine .closes rfl ?_
      unfold Progress.closeGroup? at hclose
      split at hclose
      · assumption
      · cases hclose
    | some next =>
      obtain ⟨next', hsecond, hnext⟩ := hafter.closeGroup? hclose
      exact .both hclose hsecond hnext
  | bar => exact .both rfl rfl hafter.bar
  | part part => exact .both rfl rfl (hafter.add part)
  | repetition least greatest greedy =>
    rcases hafter.repeatLast? hbase least greatest greedy with
      ⟨hfirst, hsecond⟩ | ⟨next, next', hfirst, hsecond, hnext⟩
    · exact .neither hfirst hsecond
    · exact .both hfirst hsecond hnext

end Patternwork.Regular
