import Patternwork.Proofs.Notation.Literal
import Patternwork.Proofs.Regular.Words

namespace Patternwork.Regular

variable {progress next inner : Progress} {enclosing : List Enclosing} {names : List (List Char)}
  {input rest : List Char} {c : Char}

theorem skip_of_plain {modes : Modes} (hplain : modes.verbose = false) (input : List Char) :
    modes.skip input = input := by
  simp [Modes.skip, hplain]

theorem skip_cons (modes : Modes) (hcomment : c ≠ '#') (hblank : Unicode.isBlank c = false)
    (rest : List Char) : modes.skip (c :: rest) = c :: rest := by
  cases hverbose : modes.verbose with
  | false => exact skip_of_plain hverbose _
  | true => simp [Modes.skip, hverbose, Modes.skipVerbose, hcomment, hblank]

/-- An element is read by one round, unless modes are in force that pass over its start. -/
theorem leads_of_readElement (hskip : progress.modes.skip (c :: input) = c :: input)
    (hlength : rest.length ≤ input.length)
    (hread : readElement progress (c :: input) = some (next, rest)) :
    Leads readElements progress (c :: input) next rest := by
  refine .single (Nat.lt_succ_of_le hlength) fun fuel => ?_
  rw [readElements, hskip]
  simp [hread]

theorem readElements_nil (fuel : Nat) (progress : Progress) :
    readElements (fuel + 1) progress [] = some progress := by
  have hskip : progress.modes.skip [] = [] := by simp [Modes.skip, Modes.skipVerbose]
  rw [readElements, hskip]

theorem joinParts_node (parts : List Part) :
    (joinParts parts).node = seqs (parts.reverse.map Part.node) := by
  match parts with
  | [] => rfl
  | [_] => rfl
  | _ :: _ :: _ => rfl

/-- The branches that have been read, with the one that is being read. -/
def Branches.nodes (branches : Branches) : List Regular :=
  (joinParts branches.parts :: branches.done).reverse.map Part.node

theorem join_node (branches : Branches) : branches.join.node = alts branches.nodes := by
  obtain ⟨done, parts⟩ := branches
  cases done <;> rfl

/-- A character as a part. -/
def leaf (modes : Modes) (c : Char) : Part := { node := .set (modes.literal c), depth := 0 }

theorem leads_leaf (hplain : progress.modes.verbose = false) (hliteral : c ∉ metaCharacters)
    (rest : List Char) :
    Leads readElements progress (c :: rest) (progress.add (leaf progress.modes c)) rest := by
  refine leads_of_readElement (skip_of_plain hplain _) (Nat.le_refl _) ?_
  simp only [metaCharacters, List.mem_cons, List.not_mem_nil, or_false, not_or] at hliteral
  simp [readElement, hliteral, Progress.addLeaf, leaf]

/-- The characters of a text as parts, latest first. -/
def leaves (modes : Modes) (item : List Char) : List Part := (item.map (leaf modes)).reverse

theorem leads_word (hplain : progress.modes.verbose = false) {item : List Char}
    (hliteral : Literal item) (rest : List Char) :
    Leads readElements progress (item ++ rest)
      { progress with
        branches :=
          { progress.branches with
            parts := leaves progress.modes item ++ progress.branches.parts } } rest := by
  induction item generalizing progress with
  | nil => exact .refl _ _ _
  | cons c item ih =>
    obtain ⟨hc, hitem⟩ := hliteral.of_cons
    have hrounds := (leads_leaf hplain hc (item ++ rest)).trans (ih (by exact hplain) hitem)
    simpa [Progress.add, Branches.add, leaves] using hrounds

/-- What inline flags leave among the parts. -/
def switched : Part := { node := .empty, depth := 0, repeatable := false }

/-- Parts that inline flags leave. -/
def Switched (before : List Part) : Prop := ∀ part ∈ before, part = switched

/-- A group as one part. -/
def groupPart (inner : Branches) : Part :=
  { node := inner.join.node, depth := inner.join.depth + 1 }

theorem leads_close {branches : Branches} {modes : Modes}
    (hgroups : progress.enclosing = ⟨branches, modes, false⟩ :: enclosing) (rest : List Char) :
    Leads readElements progress (')' :: rest)
      { progress with
        enclosing
        branches := branches.add (groupPart progress.branches)
        modes } rest := by
  refine leads_of_readElement (skip_cons _ (by decide) (by decide) _) (Nat.le_refl _) ?_
  simp [readElement, Progress.closeGroup?, hgroups, groupPart]

theorem leads_openGroup (progress : Progress) (hplain : progress.modes.verbose = false)
    (rest : List Char) :
    Leads readElements progress ('(' :: '?' :: ':' :: rest)
      (progress.openGroup progress.modes false) rest := by
  refine leads_of_readElement (skip_of_plain hplain _) ?_ ?_
  · simp only [List.length_cons]
    omega
  · simp [readElement, readGroup, skip_of_plain hplain, readFlags]

/-- A group is read as one part, once the text in it is read. -/
theorem leads_group (progress : Progress) (hplain : progress.modes.verbose = false)
    (hgroups : inner.enclosing = ⟨progress.branches, progress.modes, false⟩ :: progress.enclosing)
    (hinner : Leads readElements (progress.openGroup progress.modes false) (input ++ ')' :: rest)
      inner (')' :: rest)) :
    Leads readElements progress ('(' :: '?' :: ':' :: (input ++ ')' :: rest))
      { inner with
        enclosing := progress.enclosing
        branches := progress.branches.add (groupPart inner.branches)
        modes := progress.modes } rest :=
  (leads_openGroup progress hplain _).trans (hinner.trans (leads_close hgroups rest))

/-- What is read of a text is read of it among alternatives, in a group of its own or not. -/
theorem leads_branch (progress : Progress) (wrap : Bool) {item : List Char} {parts : List Part}
    (hplain : progress.modes.verbose = false)
    (hitem : ∀ (state : Progress) (rest : List Char), state.modes = progress.modes →
      Leads readElements state (item ++ rest)
        { state with
          branches := { state.branches with parts := parts ++ state.branches.parts } } rest) :
    ∃ others, (joinParts others).node = (joinParts parts).node ∧ ∀ rest,
      Leads readElements progress (Item.branch wrap item ++ rest)
        { progress with
          branches := { progress.branches with parts := others ++ progress.branches.parts } }
        rest := by
  cases wrap with
  | false => exact ⟨parts, rfl, fun rest => hitem progress rest rfl⟩
  | true =>
    refine ⟨[groupPart { parts }], rfl, fun rest => ?_⟩
    have hinner := hitem (progress.openGroup progress.modes false) (')' :: rest) rfl
    have hgroup := leads_group progress hplain (by rfl) hinner
    simpa [Item.branch, Branches.add, Progress.openGroup] using hgroup

theorem leads_branch_word (progress : Progress) (wrap : Bool) {item : List Char}
    (hplain : progress.modes.verbose = false) (hliteral : Literal item) :
    ∃ parts, (joinParts parts).node = (joinParts (leaves progress.modes item)).node ∧
      ∀ rest, Leads readElements progress (Item.branch wrap item ++ rest)
        { progress with
          branches := { progress.branches with parts := parts ++ progress.branches.parts } }
        rest := by
  refine leads_branch progress wrap hplain fun state rest hmodes => ?_
  rw [← hmodes]
  exact leads_word (by rw [hmodes, hplain]) hliteral rest

theorem joinParts_leaves (item : List Char) : (joinParts (leaves {} item)).node = word item := by
  rw [joinParts_node, leaves, List.reverse_reverse, List.map_map]
  rfl

/-- Texts as alternatives are read as words. -/
theorem leads_branches (wrap : Bool) {items : List (List Char)} (enclosing : List Enclosing)
    (names : List (List Char)) (done : List Part) (hitems : items ≠ [])
    (hliteral : ∀ item ∈ items, Literal item) (rest : List Char) :
    ∃ read : Branches, read.nodes = done.reverse.map Part.node ++ items.map word ∧
      Leads readElements { enclosing, branches := { done }, names }
        (Item.branches wrap items ++ rest) { enclosing, branches := read, names } rest := by
  induction items generalizing done with
  | nil => exact absurd rfl hitems
  | cons item more ih =>
    have hitem := hliteral item (List.mem_cons_self ..)
    obtain ⟨parts, hparts, hbranch⟩ :=
      leads_branch_word { enclosing, branches := { done }, names } wrap rfl hitem
    rw [List.append_nil] at hbranch
    have hword : (joinParts parts).node = word item := hparts.trans (joinParts_leaves item)
    cases more with
    | nil => exact ⟨{ done, parts }, by simp [Branches.nodes, hword], hbranch rest⟩
    | cons next more =>
      have hleads := hbranch ('|' :: (Item.branches wrap (next :: more) ++ rest))
      obtain ⟨read, hnodes, hrest⟩ := ih (joinParts parts :: done)
        (List.cons_ne_nil next more) fun item hmem => hliteral item (List.mem_cons_of_mem _ hmem)
      have hbar : readElement { enclosing, branches := { done, parts }, names }
          ('|' :: (Item.branches wrap (next :: more) ++ rest)) =
            some ({ enclosing, branches := { done := joinParts parts :: done }, names },
              Item.branches wrap (next :: more) ++ rest) := rfl
      refine ⟨read, by simp [hnodes, hword], ?_⟩
      have hall := (hleads.trans (leads_of_readElement rfl (Nat.le_refl _) hbar)).trans hrest
      simpa [Item.branches] using hall

/-- The anchors of a text as parts of it. -/
def anchorParts (called : Bool) (condition : Look) : List Part :=
  (anchor called condition).map fun node => { node, depth := 0 }

theorem leads_caret (progress : Progress) (hplain : progress.modes.verbose = false) (start : Bool)
    (rest : List Char) :
    Leads readElements progress ((if start then ['^'] else []) ++ rest)
      { progress with
        branches :=
          { progress.branches with
            parts := anchorParts start progress.modes.caret ++ progress.branches.parts } }
      rest := by
  cases start with
  | false => exact .refl _ _ _
  | true => exact leads_of_readElement (skip_of_plain hplain _) (Nat.le_refl _) rfl

theorem leads_dollar (progress : Progress) (hplain : progress.modes.verbose = false)
    (stop : Bool) :
    Leads readElements progress (if stop then ['$'] else [])
      { progress with
        branches :=
          { progress.branches with
            parts := anchorParts stop progress.modes.dollar ++ progress.branches.parts } } [] := by
  cases stop with
  | false => exact .refl _ _ _
  | true => exact leads_of_readElement (skip_of_plain hplain _) (Nat.le_refl _) rfl

variable {before : List Part} {start stop wrap : Bool} {modes : Modes} {body text : List Char}
  {last : Progress} {a : Regular}

/-- The state in which the alternatives between anchors are read, with the parts that stand
    before them. -/
def opened (before : List Part) (start : Bool) (modes : Modes) : Progress where
  enclosing := [⟨{ parts := anchorParts start modes.caret ++ before }, modes, false⟩]
  modes

theorem leads_opened (before : List Part) (start stop : Bool) (hplain : modes.verbose = false)
    (body : List Char) :
    Leads readElements { branches := { parts := before }, modes } (Item.anchored start stop body)
      (opened before start modes) (body ++ ')' :: if stop then ['$'] else []) :=
  (leads_caret _ hplain start _).trans (leads_openGroup _ hplain _)

/-- The expression of a text whose alternatives are read between its anchors. -/
theorem eq_framed_of_parse? (hplain : modes.verbose = false)
    (hleads : Leads readElements {} text last (')' :: if stop then ['$'] else []))
    (hgroups : last.enclosing = (opened before start modes).enclosing)
    (hparse : parse? text = some a) :
    a = seqs (before.reverse.map Part.node ++ (anchor start modes.caret ++
      (alts last.branches.nodes :: anchor stop modes.dollar))) := by
  have hclosed := hleads.trans (leads_close hgroups _)
  have hread := (hclosed.trans (leads_dollar _ hplain stop)).read_eq
    fun fuel => readElements_nil fuel _
  obtain ⟨whole, hwhole, hparse⟩ := Option.bind_eq_some_iff.mp hparse
  obtain rfl := Option.some.inj (hread.symm.trans hwhole)
  obtain ⟨part, hpart, hparse⟩ := Option.bind_eq_some_iff.mp hparse
  obtain rfl := Option.some.inj hpart
  obtain ⟨_, hnode⟩ := Option.ite_none_right_eq_some.mp hparse
  rw [← Option.some.inj hnode]
  refine (joinParts_node _).trans ?_
  cases start <;> cases stop <;> simp [anchorParts, anchor, groupPart, join_node, Branches.add]

/-- A list of texts that stand for themselves is read as words, if it is read at all. -/
theorem eq_words_of_parse? {items : List (List Char)} (hitems : items ≠ [])
    (hliteral : ∀ item ∈ items, Literal item)
    (hparse : parse? (Item.anchored start stop (Item.branches wrap items)) = some a) :
    a = seqs (anchor start .textStart ++ (words items :: anchor stop .textEnd)) := by
  obtain ⟨read, hnodes, hbranches⟩ := leads_branches wrap (opened [] start {}).enclosing [] []
    hitems hliteral (')' :: if stop then ['$'] else [])
  have hframed := eq_framed_of_parse? rfl ((leads_opened [] start stop rfl _).trans hbranches) rfl
    hparse
  rwa [hnodes] at hframed

end Patternwork.Regular
