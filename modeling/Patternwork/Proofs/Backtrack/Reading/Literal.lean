import Patternwork.Backtrack.Build
import Patternwork.Proofs.Backtrack.Framed
import Patternwork.Proofs.Notation.Literal

namespace Patternwork.Backtrack

variable {progress next inner : Progress} {enclosing : List Enclosing} {input rest : List Char}
  {c : Char} {a : Tree}

theorem leads_of_readNext (hlength : rest.length < input.length)
    (hnext : readNext progress input = some (next, rest)) :
    Leads readElements progress input next rest :=
  .single hlength (readElements_succ hnext)

/-- A text that does not go on with a quantifier or a comment. -/
def Unquantified (rest : List Char) : Prop :=
  ∀ c ∈ rest.head?, c ∉ ['(', '?', '*', '+', '\x7b']

theorem unquantified_bar (rest : List Char) : Unquantified ('|' :: rest) := by
  rintro c ⟨rfl⟩
  decide

theorem unquantified_close (rest : List Char) : Unquantified (')' :: rest) := by
  rintro c ⟨rfl⟩
  decide

theorem skip_of_unquantified {modes : Modes} (hplain : modes.verbose = false)
    (hrest : Unquantified rest) : skip modes rest = some rest := by
  cases rest with
  | nil => rfl
  | cons c rest =>
    have hc := hrest c rfl
    exact skip_of_ne hplain (fun heq => hc (by simp [heq])) rest

theorem readQuantifier_of_unquantified (modes : Modes) (hrest : Unquantified rest) :
    readQuantifier modes rest = none := by
  cases rest with
  | nil => rfl
  | cons c rest =>
    have hc := hrest c rfl
    simp only [List.mem_cons, List.not_mem_nil, or_false, not_or] at hc
    simp [readQuantifier, hc]

theorem addQuantified_eq_add (hplain : progress.modes.verbose = false) (hrest : Unquantified rest)
    (a : Tree) : addQuantified progress a rest = some (progress.add a, rest) :=
  addQuantified_of_none (skip_of_unquantified hplain hrest)
    (readQuantifier_of_unquantified progress.modes hrest) a

/-- A character as a tree. -/
def leaf (modes : Modes) (c : Char) : Tree := .set (modes.literal c)

theorem leads_leaf (hplain : progress.modes.verbose = false) (hliteral : c ∉ metaCharacters)
    (hrest : Unquantified rest) :
    Leads readElements progress (c :: rest) (progress.add (leaf progress.modes c)) rest := by
  refine leads_of_readNext (Nat.lt_succ_self _) ?_
  simp only [metaCharacters, List.mem_cons, List.not_mem_nil, or_false, not_or] at hliteral
  rw [readNext, skip_of_ne hplain (by simp [hliteral]), Option.bind_some]
  simp [readElement, hliteral, addQuantified_eq_add hplain hrest, leaf]

theorem Literal.unquantified {item : List Char} (hliteral : Literal item)
    (hrest : Unquantified rest) : Unquantified (item ++ rest) := by
  cases item with
  | nil => exact hrest
  | cons c item =>
    rintro d ⟨rfl⟩
    have hc := hliteral.of_cons.1
    simp only [metaCharacters, List.mem_cons, List.not_mem_nil, or_false, not_or] at hc ⊢
    simp [hc]

/-- The characters of a text as parts of a tree, latest first. -/
def leaves (modes : Modes) (item : List Char) : List Tree := (item.map (leaf modes)).reverse

theorem leads_word (hplain : progress.modes.verbose = false) {item : List Char}
    (hliteral : Literal item) (hrest : Unquantified rest) :
    Leads readElements progress (item ++ rest)
      { progress with
        branches :=
          { progress.branches with
            parts := leaves progress.modes item ++ progress.branches.parts } } rest := by
  induction item generalizing progress with
  | nil => exact .refl _ _ _
  | cons c item ih =>
    obtain ⟨hc, hitem⟩ := hliteral.of_cons
    have hrounds := (leads_leaf hplain hc (Literal.unquantified hitem hrest)).trans
      (ih (by exact hplain) hitem)
    simpa [Progress.add, Branches.add, leaf, leaves] using hrounds

/-- A group is read as one part, once the text in it is read. -/
theorem leads_group (progress : Progress) (hplain : progress.modes.verbose = false)
    (hroom : progress.enclosing.length + 1 < nestLimit) (hrest : Unquantified rest)
    (hgroups : inner.enclosing = ⟨.scoped progress.modes, progress.branches⟩ :: progress.enclosing)
    (htree : inner.inner? = some a)
    (hinner : Leads readElements
      { progress with
        enclosing := ⟨.scoped progress.modes, progress.branches⟩ :: progress.enclosing
        branches := {} } (input ++ ')' :: rest) inner (')' :: rest)) :
    Leads readElements progress ('(' :: '?' :: ':' :: (input ++ ')' :: rest))
      ({ inner with
          enclosing := progress.enclosing
          branches := progress.branches
          modes := progress.modes }.add a) rest := by
  have hafter : readAfter inner.modes (some (.scoped progress.modes)) rest = some (none, rest) :=
    readRepetition_of_none (skip_of_unquantified hplain hrest)
      (readQuantifier_of_unquantified progress.modes hrest)
  have hclose : readNext inner (')' :: rest) =
      some
        ({ inner with
            enclosing := progress.enclosing
            branches := progress.branches
            modes := progress.modes }.add a, rest) := by
    rw [readNext_close hgroups hafter, htree]
    rfl
  refine (leads_of_readNext ?_ (readNext_scoped hroom _)).trans
    (hinner.trans (leads_of_readNext (Nat.lt_succ_self _) hclose))
  simp only [List.length_cons]
  omega

/-- Whether groups have names and are referred to by numbers as well. -/
def Progress.mixed (progress : Progress) : Bool :=
  progress.numbered && !progress.names.isEmpty

theorem Progress.inner?_of_unmixed (hunmixed : progress.mixed = false) :
    progress.inner? = some progress.branches.join := by
  refine if_neg ?_
  rw [Bool.and_assoc, show (progress.numbered && !progress.names.isEmpty) = false from hunmixed]
  simp

theorem Progress.inner?_of_mixed (hmixed : progress.mixed = true)
    (hdone : progress.branches.done = []) : progress.inner? = none := by
  refine if_pos ?_
  rw [Bool.and_assoc, show (progress.numbered && !progress.names.isEmpty) = true from hmixed, hdone]
  rfl

/-- What is read of a text is read of it among alternatives, in a group of its own or not. -/
theorem leads_branch (progress : Progress) (wrap : Bool) {item : List Char} {parts : List Tree}
    (hplain : progress.modes.verbose = false)
    (hroom : progress.enclosing.length + 1 < nestLimit)
    (hunmixed : progress.mixed = false)
    (hitem : ∀ (state : Progress) (rest : List Char), state.modes = progress.modes →
      Unquantified rest → Leads readElements state (item ++ rest)
        { state with
          branches := { state.branches with parts := parts ++ state.branches.parts } } rest) :
    ∃ others, joinParts others = joinParts parts ∧ ∀ rest, Unquantified rest →
      Leads readElements progress (Item.branch wrap item ++ rest)
        { progress with
          branches := { progress.branches with parts := others ++ progress.branches.parts } }
        rest := by
  cases wrap with
  | false => exact ⟨parts, rfl, fun rest hrest => hitem progress rest rfl hrest⟩
  | true =>
    refine ⟨(joinParts parts).asParts, joinParts_asParts _, fun rest hrest => ?_⟩
    have hinner := hitem
      { progress with
        enclosing := ⟨.scoped progress.modes, progress.branches⟩ :: progress.enclosing
        branches := {} } (')' :: rest) rfl (unquantified_close rest)
    have hgroup := leads_group progress hplain hroom hrest rfl
      (Progress.inner?_of_unmixed (by exact hunmixed)) hinner
    rw [Progress.add_eq] at hgroup
    simpa [Item.branch, Branches.join] using hgroup

theorem leads_branch_word (progress : Progress) (wrap : Bool) {item : List Char}
    (hplain : progress.modes.verbose = false)
    (hroom : progress.enclosing.length + 1 < nestLimit)
    (hunmixed : progress.mixed = false)
    (hliteral : Literal item) :
    ∃ parts, joinParts parts = joinParts (leaves progress.modes item) ∧
      ∀ rest, Unquantified rest →
        Leads readElements progress (Item.branch wrap item ++ rest)
          { progress with
            branches := { progress.branches with parts := parts ++ progress.branches.parts } }
          rest := by
  refine leads_branch progress wrap hplain hroom hunmixed fun state rest hmodes hrest => ?_
  rw [← hmodes]
  exact leads_word (by rw [hmodes, hplain]) hliteral hrest

/-- The characters of a text as a tree. -/
def wordTree (item : List Char) : Tree := joinParts (leaves {} item)

/-- Texts as alternatives are read as words. -/
theorem leads_branches (wrap : Bool) {items : List (List Char)} (enclosing : List Enclosing)
    (done : List Tree) (hroom : enclosing.length + 1 < nestLimit) (hitems : items ≠ [])
    (hliteral : ∀ item ∈ items, Literal item) (hrest : Unquantified rest) :
    ∃ read : Branches, read.trees = done.reverse ++ items.map wordTree ∧
      Leads readElements { enclosing, branches := { done } } (Item.branches wrap items ++ rest)
        { enclosing, branches := read } rest := by
  induction items generalizing done with
  | nil => exact absurd rfl hitems
  | cons item more ih =>
    have hitem := hliteral item (List.mem_cons_self ..)
    obtain ⟨parts, hword, hbranch⟩ := leads_branch_word { enclosing, branches := { done } } wrap
      rfl hroom rfl hitem
    rw [List.append_nil] at hbranch
    cases more with
    | nil =>
      exact ⟨{ done, parts }, by simp [Branches.trees, hword, wordTree], hbranch rest hrest⟩
    | cons next more =>
      have hleads := hbranch _ (unquantified_bar (Item.branches wrap (next :: more) ++ rest))
      obtain ⟨read, htrees, hmore⟩ := ih (joinParts parts :: done)
        (List.cons_ne_nil next more) fun item hmem => hliteral item (List.mem_cons_of_mem _ hmem)
      have hbar : readNext { enclosing, branches := { done, parts } }
          ('|' :: (Item.branches wrap (next :: more) ++ rest)) =
            some ({ enclosing, branches := { done := joinParts parts :: done } },
              Item.branches wrap (next :: more) ++ rest) := by
        rw [readNext, skip_of_ne rfl (by decide), Option.bind_some]
        rfl
      refine ⟨read, by simp [htrees, hword, wordTree], ?_⟩
      simpa [Item.branches] using
        (hleads.trans (leads_of_readNext (Nat.lt_succ_self _) hbar)).trans hmore

theorem leads_caret (start : Bool) (rest : List Char) :
    Leads readElements {} ((if start then ['^'] else []) ++ '(' :: '?' :: ':' :: rest)
      { branches := { parts := anchorTrees start .textStart } } ('(' :: '?' :: ':' :: rest) := by
  cases start with
  | false => exact .refl _ _ _
  | true =>
    exact leads_of_readNext (Nat.lt_succ_self _) (readNext_caret ':' (by decide) rest)

theorem leads_dollar (stop : Bool) (parts : List Tree) :
    Leads readElements { branches := { parts } } (if stop then ['$'] else [])
      { branches := { parts := anchorTrees stop .textEnd ++ parts } } [] := by
  cases stop with
  | false => exact .refl _ _ _
  | true =>
    exact leads_of_readNext (Nat.lt_succ_self _)
      (readNext_dollar (by simp [Plain]) (by simp))

/-- The tree of a list of texts that stand for themselves. -/
def listTree (items : List (List Char)) : Tree := alternation (items.map wordTree)

theorem Leads.read?_eq {branches : Branches}
    (hleads : Leads readElements {} input { branches } []) :
    read? input = some { tree := branches.join, groups := 0, loops := 0, referenced := [] } :=
  read?_eq_some_iff.mpr ⟨{ branches }, hleads.read_eq fun _ => rfl, rfl, by
    simp [Progress.inner?], rfl, rfl, rfl⟩

theorem read?_branches (wrap : Bool) {items : List (List Char)} (hitems : items ≠ [])
    (hliteral : ∀ item ∈ items, Literal item) :
    read? (Item.branches wrap items) =
      some { tree := listTree items, groups := 0, loops := 0, referenced := [] } := by
  have hend : Unquantified [] := by simp [Unquantified]
  obtain ⟨read, htrees, hleads⟩ := leads_branches wrap [] [] (by decide) hitems hliteral hend
  rw [List.append_nil] at hleads
  rw [Leads.read?_eq hleads, join_eq_alternation, htrees]
  rfl

/-- Between anchors a list of texts that stand for themselves is read as one part. -/
theorem read?_anchoredBranches (start stop wrap : Bool) {items : List (List Char)}
    (hitems : items ≠ []) (hliteral : ∀ item ∈ items, Literal item) :
    read? (Item.anchored start stop (Item.branches wrap items)) =
      some
        { tree := framedTree start stop {} (listTree items)
          groups := 0
          loops := 0
          referenced := [] } := by
  have hafter : Unquantified (if stop then ['$'] else []) := by
    cases stop <;> simp [Unquantified]
  obtain ⟨read, htrees, hleads⟩ := leads_branches wrap
    [⟨.scoped {}, { parts := anchorTrees start .textStart }⟩] [] (by simp [nestLimit]) hitems
    hliteral (unquantified_close (if stop then ['$'] else []))
  have htree : Progress.inner?
      { enclosing := [⟨.scoped {}, { parts := anchorTrees start .textStart }⟩], branches := read } =
        some (listTree items) := by
    simp [Progress.inner?, join_eq_alternation, htrees, listTree]
  have hgroup := leads_group { branches := { parts := anchorTrees start .textStart } } rfl
    (by simp [nestLimit]) hafter rfl htree hleads
  rw [Progress.add_eq] at hgroup
  exact Leads.read?_eq (((leads_caret start _).trans hgroup).trans (leads_dollar stop _))

theorem regular?_wordTree (item : List Char) :
    (wordTree item).regular? = some (Regular.word item) := by
  have hleaves : Tree.regulars? (item.map (leaf {})) =
      some (item.map fun c => .set (.single c)) := by
    induction item with
    | nil => rfl
    | cons c item ih => simp [Tree.regulars?, ih, leaf, Modes.literal, Tree.regular?]
  rw [wordTree, leaves, regular?_joinParts, List.reverse_reverse, hleaves]
  rfl

theorem regular?_listTree {items : List (List Char)} (hitems : items ≠ []) :
    (listTree items).regular? = some (Regular.words items) := by
  have hwords : Tree.regulars? (items.map wordTree) = some (items.map Regular.word) := by
    clear hitems
    induction items with
    | nil => rfl
    | cons item items ih => simp [Tree.regulars?, ih, regular?_wordTree]
  rw [listTree, regular?_alternation (by simpa using hitems), hwords]
  rfl

theorem isHard_listTree (referenced : List Nat) (items : List (List Char)) :
    (listTree items).isHard referenced = false := by
  have hword (item : List Char) : (wordTree item).isHard referenced = false := by
    refine isHard_joinParts.mpr fun a ha => ?_
    obtain ⟨c, _, rfl⟩ := List.mem_map.mp (List.mem_reverse.mp ha)
    rfl
  refine isHard_alternation.mpr fun a ha => ?_
  obtain ⟨item, _, rfl⟩ := List.mem_map.mp ha
  exact hword item

/-- The plan of a list of texts that stand for themselves is to match it as words. -/
theorem eq_regular_of_parse?_branches {wrap : Bool} {items : List (List Char)} {plan : Plan}
    (hitems : items ≠ []) (hliteral : ∀ item ∈ items, Literal item)
    (hparse : Plan.parse? (Item.branches wrap items) = some plan) :
    plan = .regular (Regular.words items) := by
  rw [Plan.parse?, read?_branches wrap hitems hliteral, Option.bind_some, Plan.ofReading?,
    isHard_listTree, regular?_listTree hitems] at hparse
  simp only [Bool.false_eq_true, if_false] at hparse
  obtain ⟨_, hplan⟩ := Option.ite_none_right_eq_some.mp hparse
  exact (Option.some.inj hplan).symm

/-- The plan of such a list between anchors is to match it as words between these anchors. -/
theorem eq_regular_of_parse?_anchored {start stop wrap : Bool} {items : List (List Char)}
    {plan : Plan} (hitems : items ≠ []) (hliteral : ∀ item ∈ items, Literal item)
    (hparse : Plan.parse? (Item.anchored start stop (Item.branches wrap items)) = some plan) :
    ∃ parts, Regular.seqs parts = Regular.words items ∧
      plan = .regular (Regular.seqs (Regular.anchor start .textStart ++
        (parts ++ Regular.anchor stop .textEnd))) := by
  rw [Plan.parse?, read?_anchoredBranches start stop wrap hitems hliteral, Option.bind_some,
    Plan.ofReading?, isHard_framedTree, isHard_listTree] at hparse
  cases hwhole : (framedTree start stop {} (listTree items)).regular? with
  | none => simp [hwhole] at hparse
  | some whole =>
    obtain ⟨parts, hparts, rfl⟩ := of_regular?_framedTree hwhole
    rw [regular?_listTree hitems] at hparts
    simp only [hwhole, Bool.false_eq_true, if_false] at hparse
    obtain ⟨_, hplan⟩ := Option.ite_none_right_eq_some.mp hparse
    exact ⟨parts, (Option.some.inj hparts).symm, (Option.some.inj hplan).symm⟩

end Patternwork.Backtrack
