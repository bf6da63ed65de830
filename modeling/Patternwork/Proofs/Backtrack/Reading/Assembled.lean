import Patternwork.Proofs.Backtrack.Reading.Rounds
import Patternwork.Proofs.Notation.Literal

namespace Patternwork

/-- The modes that flags switch on. -/
def Flags.modes (flags : Flags) : Modes :=
  { ignoreCase := flags.ignoreCase
    multiLine := flags.multiLine
    dotAll := flags.dotAll }

namespace Backtrack

variable {progress next whole : Progress} {input rest more : List Char} {fuel : Nat} {a : Tree}

theorem skip_of_ne {modes : Modes} (hplain : modes.verbose = false) {c : Char} (hgroup : c ≠ '(')
    (rest : List Char) : skip modes (c :: rest) = some (c :: rest) := by
  simp [skip, skipIgnored, hplain, hgroup]

theorem skip_group {modes : Modes} {c : Char} (hnote : c ≠ '#') (rest : List Char) :
    skip modes ('(' :: '?' :: c :: rest) = some ('(' :: '?' :: c :: rest) := by
  rw [skip, skipIgnored.eq_2 _ _ _ (by simp [hnote])]
  simp

/-- The modes after one flag was switched on; flags that do not bear on matching have no mode. -/
def switchOn (modes : Modes) : Flag → Modes
  | .ignoreCase => { modes with ignoreCase := true }
  | .multiLine => { modes with multiLine := true }
  | .dotAll => { modes with dotAll := true }
  | _ => modes

theorem readFlags_letters {modes : Modes} (hplain : modes.verbose = false) {letters : List Flag}
    (hletters : letters ⊆ Flags.matching) {start fuel : Nat} (rest : List Char)
    (hfuel : letters.length < fuel) (hstart : rest.length + 1 < start) :
    readFlags start fuel modes true (letters.map Flag.letter ++ ')' :: rest) =
      some (letters.foldl switchOn modes, ')', rest) := by
  induction letters generalizing modes fuel with
  | nil =>
    obtain ⟨fuel, rfl⟩ := Nat.exists_eq_succ_of_ne_zero (Nat.ne_of_gt hfuel)
    have hread : start - (rest.length + 1) ≠ 0 := by omega
    rw [List.map_nil, List.nil_append, readFlags, skip_of_ne hplain (by decide)]
    simp [hread]
  | cons flag letters ih =>
    obtain ⟨fuel, rfl⟩ := Nat.exists_eq_succ_of_ne_zero (Nat.ne_of_gt (Nat.zero_lt_of_lt hfuel))
    have hflag : flag = .ignoreCase ∨ flag = .multiLine ∨ flag = .dotAll := by
      simpa [Flags.matching] using hletters (List.mem_cons_self ..)
    rw [List.length_cons] at hfuel
    rw [List.map_cons, List.cons_append, readFlags]
    rcases hflag with rfl | rfl | rfl
    all_goals
      rw [skip_of_ne hplain (by decide)]
      exact ih (by exact hplain) (List.subset_of_cons_subset hletters) (by omega)

/-- A group that starts with the letter of a mode switches modes. -/
theorem readNext_switch {c : Char} (hletter : c ∈ Flags.matching.map Flag.letter) {modes : Modes}
    (hread : readFlags (input.length + 1) (input.length + 2) {} true (c :: input) =
      some (modes, ')', rest)) :
    readNext {} ('(' :: '?' :: c :: input) = addQuantified { modes } .empty rest := by
  have hgroup : c ≠ '(' := fun heq => absurd (heq ▸ hletter) (by decide)
  have hnote : c ≠ '#' := fun heq => absurd (heq ▸ hletter) (by decide)
  have hroom : ({} : Progress).openAs? .atomic ≠ none := by simp [Progress.openAs?, nestLimit]
  obtain ⟨opened, hopened⟩ := Option.ne_none_iff_exists'.mp hroom
  rw [readNext, skip_group hnote, Option.bind_some, readElement, readGroup,
    skip_of_ne rfl (by decide)]
  simp only [Flags.matching, List.map_cons, Flag.letter, List.map_nil, List.mem_cons,
    List.not_mem_nil, or_false] at hletter
  rcases hletter with rfl | rfl | rfl
  all_goals simp [hopened, skip_of_ne (show Modes.verbose {} = false from rfl) hgroup, hread]

/-- The inline group of some flags switches their modes on. -/
theorem readNext_inlineGroup (flags : Flags) (rest : List Char) :
    flags.inlineGroup = "" ∧ flags.modes = {} ∨
      flags.inlineGroup ≠ "" ∧ skip {} (flags.inlineGroup.toList ++ rest) ≠ some [] ∧
        readNext {} (flags.inlineGroup.toList ++ rest) =
          addQuantified { modes := flags.modes } .empty rest := by
  have hmodes : (Flags.matching.filter flags.has).foldl switchOn {} = flags.modes := by
    obtain ⟨_, _, i, m, s, _, _, _⟩ := flags
    cases i <;> cases m <;> cases s <;> rfl
  unfold Flags.inlineGroup
  rcases hset : Flags.matching.filter flags.has with _ | ⟨flag, more⟩
  · exact .inl ⟨rfl, by rw [← hmodes, hset]; rfl⟩
  refine .inr ⟨by simp [← String.toList_inj], ?_⟩
  have hsubset : flag :: more ⊆ Flags.matching := hset ▸ List.filter_sublist.subset
  have hletter : flag.letter ∈ Flags.matching.map Flag.letter :=
    List.mem_map_of_mem (hsubset (List.mem_cons_self ..))
  have hnote : flag.letter ≠ '#' := fun heq => absurd (heq ▸ hletter) (by decide)
  have hopen : "(?".toList = ['(', '?'] := rfl
  have hclose : ")".toList = [')'] := rfl
  simp only [String.toList_append, String.toList_ofList, hopen, hclose, List.map_cons,
    List.cons_append, List.nil_append, List.append_assoc]
  refine ⟨by simp [skip_group hnote], readNext_switch hletter ?_⟩
  have hlength : (more.map Flag.letter ++ ')' :: rest).length = more.length + rest.length + 1 := by
    simp only [List.length_append, List.length_map, List.length_cons]
    omega
  rw [hlength, ← List.cons_append, ← List.map_cons,
    readFlags_letters rfl hsubset rest (by rw [List.length_cons]; omega) (by omega), ← hset, hmodes]

theorem of_addQuantified_empty (hread : addQuantified progress .empty input = some (next, rest)) :
    next = progress ∧ skip progress.modes input = some rest ∧
      readQuantifier progress.modes rest = none := by
  obtain ⟨before, hbefore, hread⟩ := Option.bind_eq_some_iff.mp hread
  cases hquantifier : readQuantifier progress.modes before with
  | none =>
    rw [hquantifier] at hread
    obtain ⟨rfl, rfl⟩ := Prod.mk.inj (Option.some.inj hread)
    exact ⟨rfl, hbefore, hquantifier⟩
  | some found => simp [hquantifier, isRepeatable] at hread

/-- After inline flags the rest of a text is read under their modes. -/
theorem readElements_inlineGroup {flags : Flags}
    (hread : readElements fuel {} (flags.inlineGroup.toList ++ input) = some whole) :
    readElements fuel { modes := flags.modes } input = some whole := by
  rcases readNext_inlineGroup flags input with ⟨hempty, hmodes⟩ | ⟨_, hskip, hnext⟩
  · rw [hempty] at hread
    exact hmodes ▸ hread
  · rcases readElements_cases hread with ⟨hend, _⟩ | ⟨fewer, next, rest, rfl, hfirst, hread⟩
    · exact absurd hend hskip
    · obtain ⟨rfl, hrest, _⟩ := of_addQuantified_empty (hnext.symm.trans hfirst)
      refine readElements_add ?_ 1
      rwa [readElements_eq_of_skip_eq]
      exact hrest.trans (skip_eq_self hrest).symm

/-- Flags before a text that begins with a quantifier: there is nothing that it could repeat. -/
def FlagsRepeated (flags : Flags) (text : List Char) : Prop :=
  flags.inlineGroup ≠ "" ∧
    ∃ rest, skip flags.modes text = some rest ∧ readQuantifier flags.modes rest ≠ none

theorem not_flagsRepeated {flags : Flags} (hskip : skip flags.modes input = some rest)
    (hquantifier : readQuantifier flags.modes rest = none) : ¬ FlagsRepeated flags input := by
  rintro ⟨_, before, hbefore, hsome⟩
  obtain rfl := Option.some.inj (hskip.symm.trans hbefore)
  exact hsome hquantifier

/-- What is read behind flags is something that does not begin with a quantifier. -/
theorem exists_of_read_inlineGroup {flags : Flags} (hne : flags.inlineGroup ≠ "")
    (hread : readElements fuel {} (flags.inlineGroup.toList ++ input) = some whole) :
    ∃ rest, skip flags.modes input = some rest ∧ readQuantifier flags.modes rest = none := by
  obtain ⟨hstart, hnext⟩ := ((readNext_inlineGroup flags input).resolve_left fun h => hne h.1).2
  obtain ⟨_, next, left, _, hfirst, _⟩ := exists_of_readElements hstart hread
  obtain ⟨_, hleft, hquantifier⟩ := of_addQuantified_empty (hnext.symm.trans hfirst)
  exact ⟨left, hleft, hquantifier⟩

theorem not_flagsRepeated_of_read {flags : Flags}
    (hread : readElements fuel {} (flags.inlineGroup.toList ++ input) = some whole) :
    ¬ FlagsRepeated flags input := by
  rintro ⟨hne, rest, hskip, hsome⟩
  obtain ⟨left, hleft, hquantifier⟩ := exists_of_read_inlineGroup hne hread
  exact not_flagsRepeated hleft hquantifier ⟨hne, rest, hskip, hsome⟩

/-- Where a text is read behind flags, it does not begin with a quantifier where more comes after
    it either. -/
theorem not_flagsRepeated_append {flags : Flags}
    (hread : readElements fuel {} (flags.inlineGroup.toList ++ input) = some whole)
    (hplain : Plain more) : ¬ FlagsRepeated flags (input ++ ')' :: more) := by
  rintro ⟨hne, rest, hskip, hsome⟩
  obtain ⟨left, hleft, hquantifier⟩ := exists_of_read_inlineGroup hne hread
  have halone := readRepetition_of_none hleft hquantifier
  have hnone : ∀ after, readRepetition flags.modes (input ++ ')' :: more) ≠ some (none, after) := by
    intro after hafter
    rw [readRepetition, hskip, Option.bind_some, Scan.orElse, readRange] at hafter
    cases hrange : readQuantifier flags.modes rest with
    | none => exact hsome hrange
    | some found => simp [hrange] at hafter
  cases (lexeme_readRepetition respected_plainTails flags.modes).continued input trivial with
  | kept hkept heq =>
    obtain ⟨rfl, rfl⟩ := Prod.mk.inj (Option.some.inj (hkept.symm.trans halone))
    exact hnone _ (heq more hplain)
  | lost _ hlost heq =>
    obtain ⟨rfl, _⟩ := Prod.mk.inj (Option.some.inj (hlost.symm.trans halone))
    exact hnone _ (heq more hplain)
  | beyond hbeyond => cases hbeyond.symm.trans halone

/-- Inline flags take at most one round. -/
theorem readElements_inlineGroup_of_read {flags : Flags} (hrepeated : ¬ FlagsRepeated flags input)
    (hread : readElements fuel { modes := flags.modes } input = some whole) :
    readElements (fuel + 1) {} (flags.inlineGroup.toList ++ input) = some whole := by
  rcases readNext_inlineGroup flags input with ⟨hempty, hmodes⟩ | ⟨hne, _, hnext⟩
  · rw [hempty, ← hmodes]
    exact readElements_add hread 1
  · cases hskip : skip flags.modes input with
    | none => cases (readElements_of_skip_eq_none (by exact hskip) fuel).symm.trans hread
    | some rest =>
      have hquantifier : readQuantifier flags.modes rest = none :=
        Classical.not_not.mp fun hsome => hrepeated ⟨hne, rest, hskip, hsome⟩
      rw [readElements_succ (hnext.trans (addQuantified_of_none hskip hquantifier .empty))]
      exact (readElements_eq_of_skip_eq (hskip.trans (skip_eq_self hskip).symm)).symm.trans hread

/-- What is read of a text once it has come to its end. -/
structure Progress.Gives (progress : Progress) (reading : Reading) : Prop where
  closed : progress.enclosing = []
  tree : progress.inner? = some reading.tree
  groups : progress.groups = reading.groups
  loops : progress.loops = reading.loops
  referenced : progress.referenced = reading.referenced

theorem inner?_eq_some (hinner : progress.inner? = some a) : a = progress.branches.join := by
  unfold Progress.inner? at hinner
  split at hinner
  · cases hinner
  · exact (Option.some.inj hinner).symm

theorem Progress.Gives.eq {reading : Reading} (hgives : progress.Gives reading) :
    reading =
      { tree := progress.branches.join
        groups := progress.groups
        loops := progress.loops
        referenced := progress.referenced } := by
  rw [hgives.groups, hgives.loops, hgives.referenced, ← inner?_eq_some hgives.tree]

theorem read?_eq_some_iff {reading : Reading} :
    read? input = some reading ↔
      ∃ whole, readElements (input.length + 1) {} input = some whole ∧ whole.Gives reading := by
  obtain ⟨tree, groups, loops, referenced⟩ := reading
  constructor
  · intro hread
    obtain ⟨whole, helements, hread⟩ := Option.bind_eq_some_iff.mp hread
    cases hclosed : whole.enclosing with
    | nil =>
      rw [hclosed] at hread
      obtain ⟨inner, hinner, hread⟩ := Option.bind_eq_some_iff.mp hread
      cases hread
      exact ⟨whole, helements, hclosed, hinner, rfl, rfl, rfl⟩
    | cons => simp [hclosed] at hread
  · rintro ⟨whole, helements, hclosed, hinner, rfl, rfl, rfl⟩
    simp [read?, helements, hclosed, hinner]

theorem readQuantifier_of_plain {modes : Modes} (hplain : Plain input)
    (hstar : input.head? ≠ some '*') : readQuantifier modes input = none := by
  cases input with
  | nil => rfl
  | cons c rest =>
    rcases hplain c (List.mem_cons_self ..) with rfl | rfl | rfl | rfl
    case inr.inr.inr => exact absurd rfl hstar
    all_goals rfl

theorem addQuantified_of_plain (hplain : Plain input) (hstar : input.head? ≠ some '*') :
    addQuantified progress a input = some (progress.add a, input) :=
  addQuantified_of_none (skipIgnored_nothing_of_plain hplain) (readQuantifier_of_plain hplain hstar) a

theorem readAfter_of_plain {modes : Modes} (innermost : Option Opening) (hplain : Plain input)
    (hstar : input.head? ≠ some '*') : readAfter modes innermost input = some (none, input) := by
  have hnone (modes : Modes) : readRepetition modes input = some (none, input) :=
    readRepetition_of_none (skipIgnored_nothing_of_plain hplain) (readQuantifier_of_plain hplain hstar)
  unfold readAfter
  split
  · exact hnone _
  · rfl
  · exact hnone _

/-- A group is repeated under the modes around it. -/
theorem readAfter_star {inner modes : Modes} (hplain : Plain rest) :
    readAfter inner (some (.scoped modes)) ('*' :: rest) =
      some (some ⟨0, none, !modes.swapGreed, false⟩, rest) := by
  have hskip : skip modes ('*' :: rest) = some ('*' :: rest) := by simp [skip, skipIgnored]
  have hrest : skip modes rest = some rest := skipIgnored_nothing_of_plain hplain
  have hmark {c : Char} (hc : c = '?' ∨ c = '+') : Scan.mark c rest = some (false, rest) := by
    refine Scan.mark_of_ne fun after heq => ?_
    have hmem := hplain c (heq ▸ List.mem_cons_self ..)
    rcases hc with rfl | rfl <;> revert hmem <;> decide
  rw [readAfter, readRepetition, hskip, Option.bind_some]
  simp [Scan.orElse, readRange, readQuantifier, readMarks, hrest, hmark]

/-- A pattern that is read on its own, up to `last`, is read in the same way inside as many as
    `depth` groups, where the reading comes to the parenthesis that closes them. -/
structure ReadInside (flags : Flags) (pattern : List Char) (alone : Reading) (depth rounds : Nat)
    (last : Progress) : Prop where
  rounds_le : rounds ≤ (flags.inlineGroup.toList ++ pattern).length
  gives : last.Gives alone
  readElements_eq : ∀ {outer more}, Around plainTails outer more → outer.length ≤ depth → ∀ left,
    readElements (left + rounds) { modes := flags.modes, enclosing := outer }
        (pattern ++ ')' :: more) =
      readElements left { last with enclosing := outer } (')' :: more)

theorem ReadInside.of_kept {flags : Flags} {alone : Reading} {limit rounds depth : Nat}
    {last : Progress} (hkept : Kept plainTails limit rounds { modes := flags.modes } input last)
    (hgives : last.Gives alone) (hrounds : rounds ≤ (flags.inlineGroup.toList ++ input).length)
    (hdepth : depth < limit) : ReadInside flags input alone depth rounds last where
  rounds_le := hrounds
  gives := hgives
  readElements_eq {outer further} haround hle left := by
    rw [← last.inside_nil hgives.closed outer (further.length + 1)]
    exact (hkept.readInside_eq haround left).trans (if_pos (Nat.lt_of_le_of_lt hle hdepth))

/-- What is read inside some groups as a part of a text that is read is read so inside all groups
    that are not more. -/
theorem exists_readInside {flags : Flags} {alone : Reading} {outer : List Enclosing}
    (halone : read? (flags.inlineGroup.toList ++ input) = some alone)
    (haround : Around plainTails outer more) (houter : outer ≠ [])
    (hread : readElements fuel { modes := flags.modes, enclosing := outer }
      (input ++ ')' :: more) = some whole)
    (hclosed : whole.enclosing = []) :
    ∃ rounds last, ReadInside flags input alone outer.length rounds last := by
  obtain ⟨last, helements, hgives⟩ := read?_eq_some_iff.mp halone
  replace hread : readInside outer more fuel { modes := flags.modes } input = some whole := hread
  rcases kept_or_lost (readElements_inlineGroup helements) with
    ⟨rounds, limit, hrounds, _, hkept⟩ | hlost
  · exact ⟨rounds, last, .of_kept hkept hgives (Nat.le_of_lt_succ hrounds)
      (hkept.readElements_close haround hread).1⟩
  · have hlength := hlost.opened haround hread
    rw [hclosed, List.length_nil, Nat.le_zero, List.length_eq_zero_iff] at hlength
    exact absurd hlength houter

/-- Plain text is not passed over. -/
theorem readNext_of_plain {c : Char} (hplain : Plain (c :: rest)) :
    readNext progress (c :: rest) = readElement progress (c :: rest) := by
  have hskip : skip progress.modes (c :: rest) = some (c :: rest) :=
    skipIgnored_nothing_of_plain hplain
  rw [readNext, hskip]
  rfl

/-- A parenthesis closes the innermost group. -/
theorem readNext_close {opening : Opening} {branches : Branches} {enclosing : List Enclosing}
    {repetition : Option Quantifier}
    (henclosing : progress.enclosing = ⟨opening, branches⟩ :: enclosing)
    (hafter : readAfter progress.modes (some opening) more = some (repetition, rest)) :
    readNext progress (')' :: more) =
      progress.inner?.bind fun inner =>
        (({ progress with enclosing, branches } : Progress).close? inner (more.length + 1)
          rest.length repetition opening).map fun next => (next, rest) := by
  have hskip : skip progress.modes (')' :: more) = some (')' :: more) := by simp [skip, skipIgnored]
  rw [readNext, hskip, Option.bind_some, readElement, closeGroup_eq, henclosing]
  rw [show List.head? _ = some _ from rfl, Option.map_some, hafter, Option.bind_some,
    Progress.closeGroup?, henclosing, Option.map_bind]
  rfl

theorem readElements_close {opening : Opening} {branches : Branches} {enclosing : List Enclosing}
    {repetition : Option Quantifier}
    (henclosing : progress.enclosing = ⟨opening, branches⟩ :: enclosing)
    (hafter : readAfter progress.modes (some opening) more = some (repetition, rest))
    (hread : readElements fuel progress (')' :: more) = some whole) :
    ∃ inner next, progress.inner? = some inner ∧
      ({ progress with enclosing, branches } : Progress).close? inner (more.length + 1) rest.length
        repetition opening = some next ∧
      readElements fuel next rest = some whole := by
  have hskip : skip progress.modes (')' :: more) ≠ some [] := by simp [skip, skipIgnored]
  obtain ⟨fewer, _, _, rfl, hnext, hread⟩ := exists_of_readElements hskip hread
  rw [readNext_close henclosing hafter] at hnext
  obtain ⟨inner, hinner, hnext⟩ := Option.bind_eq_some_iff.mp hnext
  obtain ⟨next, hclose, heq⟩ := Option.map_eq_some_iff.mp hnext
  obtain ⟨rfl, rfl⟩ := Prod.mk.inj heq
  exact ⟨inner, next, hinner, hclose, readElements_add hread 1⟩

theorem readNext_scoped (hroom : progress.enclosing.length + 1 < nestLimit) (rest : List Char) :
    readNext progress ('(' :: '?' :: ':' :: rest) =
      some ({ progress with
              enclosing := ⟨.scoped progress.modes, progress.branches⟩ :: progress.enclosing
              branches := {} }, rest) := by
  simp [readNext, skip, skipIgnored, readElement, readGroup, Progress.openAs?, hroom, readFlags]

theorem readNext_ahead (hroom : progress.enclosing.length + 1 < nestLimit) (rest : List Char) :
    readNext progress ('(' :: '?' :: '=' :: rest) =
      some ({ progress with
              enclosing := ⟨.ahead false, progress.branches⟩ :: progress.enclosing
              branches := {} }, rest) := by
  simp [readNext, skip, skipIgnored, readElement, readGroup, Progress.openAs?, hroom]

theorem readNext_notAhead (hroom : progress.enclosing.length + 1 < nestLimit)
    (rest : List Char) :
    readNext progress ('(' :: '?' :: '!' :: rest) =
      some ({ progress with
              enclosing := ⟨.ahead true, progress.branches⟩ :: progress.enclosing
              branches := {} }, rest) := by
  simp [readNext, skip, skipIgnored, readElement, readGroup, Progress.openAs?, hroom]

theorem readNext_caret (c : Char) (hnote : c ≠ '#') (rest : List Char) :
    readNext progress ('^' :: '(' :: '?' :: c :: rest) =
      some (progress.add (.look progress.modes.caret), '(' :: '?' :: c :: rest) := by
  have hcaret : skip progress.modes ('^' :: '(' :: '?' :: c :: rest) =
      some ('^' :: '(' :: '?' :: c :: rest) := by
    simp [skip, skipIgnored]
  rw [readNext, hcaret, Option.bind_some, readElement]
  exact addQuantified_of_none (skip_group hnote rest) rfl _

/-- A part as a list of the parts of a sequence; an empty part is left out. -/
def Tree.asParts : Tree → List Tree
  | .empty => []
  | a => [a]

theorem Progress.add_eq (progress : Progress) (a : Tree) :
    progress.add a =
      { progress with
        branches := { progress.branches with parts := a.asParts ++ progress.branches.parts } } := by
  cases a <;> rfl

theorem readNext_dollar (hplain : Plain input) (hstar : input.head? ≠ some '*') :
    readNext progress ('$' :: input) =
      some (progress.add (.look progress.modes.dollar), input) := by
  rw [readNext_of_plain (by simpa [Plain] using hplain)]
  exact addQuantified_of_plain hplain hstar

theorem readNext_dot (hplain : Plain input) (hstar : input.head? ≠ some '*') :
    readNext progress ('.' :: input) =
      some (progress.add (.set progress.modes.dot), input) := by
  rw [readNext_of_plain (by simpa [Plain] using hplain)]
  exact addQuantified_of_plain hplain hstar

theorem joinParts_asParts (a : Tree) : joinParts a.asParts = a := by
  cases a <;> rfl

/-- The anchors of a text as parts of it. -/
def anchorTrees (called : Bool) (condition : Look) : List Tree :=
  if called then [.look condition] else []

/-- The tree of a group between the anchors that are called for. -/
def framedTree (start stop : Bool) (modes : Modes) (a : Tree) : Tree :=
  joinParts (anchorTrees stop modes.dollar ++ (a.asParts ++ anchorTrees start modes.caret))

/-- The tree of a pattern between anchors. -/
def anchoredTree (modes : Modes) (a : Tree) : Tree :=
  joinParts (.look modes.dollar :: a.asParts ++ [.look modes.caret])

/-- The start of a text between anchors. -/
theorem exists_reads_caret (start stop : Bool) (modes : Modes) (body : List Char) :
    ∃ rounds ≤ if start then 1 else 0, Reads rounds { modes } (Item.anchored start stop body)
      { modes, branches := { parts := anchorTrees start modes.caret } }
      ('(' :: '?' :: ':' :: (body ++ ')' :: if stop then ['$'] else [])) := by
  cases start with
  | false => exact ⟨0, Nat.le_refl 0, .refl _ _⟩
  | true => exact ⟨1, Nat.le_refl 1, .single (readNext_caret ':' (by decide) _)⟩

/-- The end of a text between anchors. -/
theorem exists_readElements_dollar (stop : Bool) (progress : Progress) :
    ∃ rounds ≤ if stop then 1 else 0,
      readElements (rounds + 1) progress (if stop then ['$'] else []) =
        some
          { progress with
            branches :=
              { progress.branches with
                parts := anchorTrees stop progress.modes.dollar ++ progress.branches.parts } } := by
  cases stop with
  | false => exact ⟨0, Nat.le_refl 0, readElements_of_end rfl 0⟩
  | true =>
    refine ⟨1, Nat.le_refl 1, ?_⟩
    exact (readElements_succ (readNext_dollar (by simp [Plain]) (by simp)) 1).trans
      (readElements_of_end rfl 0)

section Alone

variable {flags : Flags} {alone reading : Reading} {pattern : List Char} {depth rounds : Nat}
  {last : Progress} {branches : Branches}

/-- A pattern is read as one part of the text around its group. -/
theorem ReadInside.readElements_group {enclosing : List Enclosing}
    (hinside : ReadInside flags pattern alone depth rounds last)
    (hplain : Plain more) (hstar : more.head? ≠ some '*') (hdepth : enclosing.length < depth)
    (hroom : enclosing.length + 1 < nestLimit) (left : Nat) :
    readElements (left + (rounds + 2)) { modes := flags.modes, enclosing, branches }
        ("(?:".toList ++ (pattern ++ ')' :: more)) =
      readElements left
        ({ last with modes := flags.modes, enclosing, branches }.add alone.tree) more := by
  have hclose : readNext { last with enclosing := ⟨.scoped flags.modes, branches⟩ :: enclosing }
      (')' :: more) =
        some ({ last with modes := flags.modes, enclosing, branches }.add alone.tree, more) := by
    have htree : Progress.inner?
        { last with enclosing := ⟨.scoped flags.modes, branches⟩ :: enclosing } =
          some alone.tree := hinside.gives.tree
    rw [readNext_close rfl (readAfter_of_plain _ hplain hstar), htree]
    rfl
  rw [show left + (rounds + 2) = left + 1 + rounds + 1 by omega]
  refine (readElements_succ (readNext_scoped hroom _) _).trans ?_
  have haround : Around plainTails (⟨.scoped flags.modes, branches⟩ :: enclosing) more :=
    ⟨hroom, hplain⟩
  exact (hinside.readElements_eq haround hdepth (left + 1)).trans (readElements_succ hclose left)

/-- A group that is read around a pattern is read as one part. -/
theorem exists_readInside_group {enclosing : List Enclosing}
    (halone : read? (flags.inlineGroup.toList ++ pattern) = some alone)
    (hplain : Plain more) (hstar : more.head? ≠ some '*')
    (hroom : enclosing.length + 1 < nestLimit)
    (hread : readElements fuel { modes := flags.modes, enclosing, branches }
      ("(?:".toList ++ (pattern ++ ')' :: more)) = some whole)
    (hclosed : whole.enclosing = []) :
    ∃ rounds last, ReadInside flags pattern alone (enclosing.length + 1) rounds last ∧
      readElements fuel
        ({ last with modes := flags.modes, enclosing, branches }.add alone.tree) more =
          some whole := by
  have hopened : readElements fuel
      { modes := flags.modes, enclosing := ⟨.scoped flags.modes, branches⟩ :: enclosing }
      (pattern ++ ')' :: more) = some whole :=
    (Reads.single (readNext_scoped hroom _)).readElements_after hread
  obtain ⟨rounds, last, hinside⟩ :=
    exists_readInside halone (.mk (by simpa using hroom) hplain) (by simp) hopened hclosed
  refine ⟨rounds, last, hinside, ?_⟩
  rw [← hinside.readElements_group hplain hstar (Nat.lt_succ_self _) hroom]
  exact readElements_add hread _

/-- A pattern that is read on its own can be read as a part of the texts that are put together
    with it. -/
def Embeds (flags : Flags) (pattern : List Char) (alone : Reading) : Prop :=
  ∃ rounds last, ReadInside flags pattern alone 1 rounds last ∧
    (last.numbered && !last.names.isEmpty) = false

/-- Enough is read of a text in as many rounds as it has characters. -/
theorem read?_of_readElements (hrepeated : ¬ FlagsRepeated flags input)
    (hread : readElements fuel { modes := flags.modes } input = some whole)
    (hfuel : fuel ≤ (flags.inlineGroup.toList ++ input).length) (hgives : whole.Gives reading) :
    read? (flags.inlineGroup.toList ++ input) = some reading := by
  refine read?_eq_some_iff.mpr ⟨whole, ?_, hgives⟩
  obtain ⟨more, heq⟩ := Nat.exists_eq_add_of_le (Nat.succ_le_succ hfuel)
  rw [← Nat.succ_eq_add_one, heq]
  exact readElements_add (readElements_inlineGroup_of_read hrepeated hread) more

/-- Between the anchors that are called for a pattern is read as it is on its own. -/
theorem read?_framed (start stop : Bool) (hembeds : Embeds flags pattern alone) :
    read? (flags.inlineGroup.toList ++ Item.anchored start stop pattern) =
      some { alone with tree := framedTree start stop flags.modes alone.tree } := by
  obtain ⟨rounds, last, hinside, hunmixed⟩ := hembeds
  obtain ⟨first, hfirst, hopens⟩ := exists_reads_caret start stop flags.modes pattern
  have hplain : Plain (if stop then ['$'] else []) := by cases stop <;> simp [Plain]
  have hstar : (if stop then ['$'] else []).head? ≠ some '*' := by cases stop <;> simp
  obtain ⟨final, hfinal, hcloses⟩ := exists_readElements_dollar stop
    (Progress.add
      { last with
        modes := flags.modes
        enclosing := []
        branches := { parts := anchorTrees start flags.modes.caret } } alone.tree)
  have hgroup : readElements (final + 1 + (rounds + 2))
      { modes := flags.modes, branches := { parts := anchorTrees start flags.modes.caret } }
      ('(' :: '?' :: ':' :: (pattern ++ ')' :: if stop then ['$'] else [])) = _ :=
    hinside.readElements_group hplain hstar (Nat.lt_succ_self _) (by simp [nestLimit]) (final + 1)
  have hread := (hopens.readElements_eq _).trans (hgroup.trans hcloses)
  rw [Progress.add_eq] at hread
  refine read?_of_readElements ?_ hread ?_ ?_
  · cases start <;> exact not_flagsRepeated rfl rfl
  · have hrounds := hinside.rounds_le
    cases start <;> cases stop <;>
      simp only [Item.anchored, List.length_append, List.length_cons, List.length_nil,
        Bool.false_eq_true, reduceIte] at hrounds hfirst hfinal ⊢ <;> omega
  · refine ⟨rfl, if_neg ?_, hinside.gives.groups, hinside.gives.loops, hinside.gives.referenced⟩
    simpa using hunmixed

theorem framedTree_false (modes : Modes) (a : Tree) : framedTree false false modes a = a := by
  rw [framedTree, anchorTrees, anchorTrees]
  simpa using joinParts_asParts a

/-- In a group of its own a pattern is read as it is without. -/
theorem read?_grouped (hembeds : Embeds flags pattern alone) :
    read? (flags.inlineGroup.toList ++ ("(?:".toList ++ pattern ++ ")".toList)) = some alone := by
  have htext : "(?:".toList ++ pattern ++ ")".toList = Item.anchored false false pattern := by
    simp [Item.anchored]
  rw [htext, read?_framed false false hembeds, framedTree_false]

/-- Between anchors a pattern is read as it is on its own. -/
theorem read?_anchored (hembeds : Embeds flags pattern alone) :
    read? (flags.inlineGroup.toList ++ ("^(?:".toList ++ pattern ++ ")$".toList)) =
      some { alone with tree := anchoredTree flags.modes alone.tree } := by
  have htext : "^(?:".toList ++ pattern ++ ")$".toList = Item.anchored true true pattern := by
    simp [Item.anchored]
  rw [htext]
  exact read?_framed true true hembeds

/-- Under a look-ahead a pattern is read as it is on its own. -/
theorem read?_ahead (hembeds : Embeds flags pattern alone) :
    read? (flags.inlineGroup.toList ++ ("(?=".toList ++ pattern ++ ")".toList)) =
      some { alone with tree := .ahead false alone.tree } := by
  obtain ⟨rounds, last, hinside, hunmixed⟩ := hembeds
  have htext : "(?=".toList ++ pattern ++ ")".toList =
      '(' :: '?' :: '=' :: (pattern ++ ')' :: []) := by simp
  have hclose : readNext { last with enclosing := [⟨.ahead false, {}⟩] } [')'] =
      some (Progress.add { last with enclosing := [], branches := {} } (.ahead false alone.tree),
        []) := by
    have htree : Progress.inner? { last with enclosing := [⟨.ahead false, {}⟩] } =
        some alone.tree := hinside.gives.tree
    rw [readNext_close rfl (readAfter_of_plain _ (by simp [Plain]) (by simp)), htree]
    rfl
  have hread : readElements (rounds + 3) { modes := flags.modes }
      ('(' :: '?' :: '=' :: (pattern ++ ')' :: [])) =
        some (Progress.add { last with enclosing := [], branches := {} }
          (.ahead false alone.tree)) := by
    rw [show rounds + 3 = 2 + rounds + 1 by omega]
    refine (readElements_succ (readNext_ahead (by simp [nestLimit]) _) _).trans ?_
    have haround : Around plainTails [⟨.ahead false, {}⟩] [] :=
      ⟨by simp [nestLimit], by simp [plainTails, Plain]⟩
    refine (hinside.readElements_eq haround (Nat.le_refl 1) 2).trans ?_
    exact (readElements_succ hclose 1).trans (readElements_of_end rfl 0)
  rw [htext]
  refine read?_of_readElements (not_flagsRepeated rfl rfl) hread ?_ ?_
  · have hrounds := hinside.rounds_le
    simp only [List.length_append, List.length_cons, List.length_nil] at hrounds ⊢
    omega
  · refine ⟨rfl, if_neg ?_, hinside.gives.groups, hinside.gives.loops, hinside.gives.referenced⟩
    simpa [Progress.add, Branches.add] using hunmixed

/-- The tree of the loop that a negation is made of: a character is consumed where the guard
    does not match. -/
def loopTree (modes : Modes) (loop : Nat) (guard : Tree) : Tree :=
  .rep loop 0 none true (.concat [.ahead true guard, .set modes.dot])

/-- The end of the text of a negation, after the pattern it guards against. -/
theorem readElements_loop {modes : Modes} {own : Branches} {enclosing : List Enclosing}
    (hplain : Plain more) (hstar : more.head? ≠ some '*') (hswap : modes.swapGreed = false)
    (hread : readElements fuel
      { last with
        modes
        enclosing := ⟨.ahead true, {}⟩ :: ⟨.scoped modes, {}⟩ :: ⟨.scoped modes, branches⟩ ::
          enclosing
        branches := own }
      (')' :: '.' :: ')' :: '*' :: ')' :: more) = some whole) :
    readElements fuel
      ({ last with
          modes
          enclosing
          branches
          loops := last.loops + 1 }.add (loopTree modes last.loops own.join)) more =
        some whole := by
  have hdot : Plain ('.' :: ')' :: '*' :: ')' :: more) := by simpa [Plain] using hplain
  have hrepeated : readAfter modes (some (.scoped modes)) ('*' :: ')' :: more) =
      some (some ⟨0, none, true, false⟩, ')' :: more) := by
    rw [readAfter_star (by simpa [Plain] using hplain), hswap]
    rfl
  obtain ⟨guard, next, hguard, hclose, hread⟩ :=
    readElements_close rfl (readAfter_of_plain _ hdot (by simp)) hread
  obtain rfl : guard = own.join := inner?_eq_some hguard
  obtain rfl := Option.some.inj hclose
  replace hread := (Reads.single
    (readNext_dot (by simpa [Plain] using hplain) (by simp))).readElements_after hread
  obtain ⟨step, next, hstep, hclose, hread⟩ :=
    readElements_close rfl hrepeated hread
  obtain rfl : step = .concat [.ahead true own.join, .set modes.dot] := inner?_eq_some hstep
  obtain rfl := Option.some.inj hclose
  obtain ⟨loop, next, hloop, hclose, hread⟩ :=
    readElements_close rfl (readAfter_of_plain _ hplain hstar) hread
  obtain rfl : loop = loopTree modes last.loops own.join := inner?_eq_some hloop
  obtain rfl := Option.some.inj hclose
  exact hread

/-- The groups around the guard of a negation. -/
def aroundGuard (modes : Modes) (branches : Branches) : List Enclosing :=
  [⟨.ahead true, {}⟩, ⟨.scoped modes, {}⟩, ⟨.scoped modes, branches⟩]

theorem reads_aroundGuard (modes : Modes) (branches : Branches) (rest : List Char) :
    Reads 3 { modes, branches } ("(?:(?:(?!".toList ++ rest)
      { modes, enclosing := aroundGuard modes branches } rest := by
  have htext : "(?:(?:(?!".toList ++ rest =
      '(' :: '?' :: ':' :: '(' :: '?' :: ':' :: '(' :: '?' :: '!' :: rest := by simp
  rw [htext]
  exact .next (readNext_scoped (by simp [nestLimit]) _) <|
    .next (readNext_scoped (by simp [nestLimit]) _) <|
      .single (readNext_notAhead (by simp [nestLimit]) _)

/-- The text after the pattern that a negation guards against. -/
def afterGuarded (strict : Bool) : List Char :=
  if strict then ")$).)*)".toList else ")).)*)".toList

/-- The text of a negation before the pattern that it guards against. -/
def beforeGuarded (strict : Bool) : List Char :=
  if strict then "(?:(?:(?!^(?:".toList else "(?:(?:(?!(?:".toList

/-- What a negation guards against: a match of the pattern as a whole, or any match. -/
def guardTree (modes : Modes) (strict : Bool) (a : Tree) : Tree :=
  if strict then anchoredTree modes a else a

/-- A negation is read as a loop that is guarded by the pattern. -/
theorem readElements_negation (strict : Bool)
    (halone : read? (flags.inlineGroup.toList ++ pattern) = some alone)
    (hplain : Plain more) (hstar : more.head? ≠ some '*')
    (hread : readElements fuel { modes := flags.modes, branches }
      (beforeGuarded strict ++ (pattern ++ (afterGuarded strict ++ more))) = some whole)
    (hclosed : whole.enclosing = []) :
    ∃ rounds last, ReadInside flags pattern alone 4 rounds last ∧
      readElements fuel
        ({ last with
            modes := flags.modes
            enclosing := []
            branches
            loops := last.loops + 1 }.add
          (loopTree flags.modes last.loops (guardTree flags.modes strict alone.tree))) more =
          some whole := by
  cases strict with
  | true =>
    have htext : beforeGuarded true ++ (pattern ++ (afterGuarded true ++ more)) =
        "(?:(?:(?!".toList ++ '^' :: ("(?:".toList ++
          (pattern ++ ')' :: '$' :: ')' :: '.' :: ')' :: '*' :: ')' :: more)) := by
      simp [beforeGuarded, afterGuarded]
    rw [htext] at hread
    replace hread := (reads_aroundGuard flags.modes branches _).readElements_after hread
    replace hread := (Reads.single (readNext_caret ':' (by decide) _)).readElements_after hread
    obtain ⟨rounds, last, hinside, hread⟩ :=
      exists_readInside_group halone (by simpa [Plain] using hplain) (by simp)
        (by simp [aroundGuard, nestLimit]) hread hclosed
    replace hread := (Reads.single
      (readNext_dollar (by simpa [Plain] using hplain) (by simp))).readElements_after hread
    rw [Progress.add_eq _ alone.tree] at hread
    exact ⟨rounds, last, hinside, readElements_loop hplain hstar rfl hread⟩
  | false =>
    have htext : beforeGuarded false ++ (pattern ++ (afterGuarded false ++ more)) =
        "(?:(?:(?!".toList ++ ("(?:".toList ++
          (pattern ++ ')' :: ')' :: '.' :: ')' :: '*' :: ')' :: more)) := by
      simp [beforeGuarded, afterGuarded]
    rw [htext] at hread
    replace hread := (reads_aroundGuard flags.modes branches _).readElements_after hread
    obtain ⟨rounds, last, hinside, hread⟩ :=
      exists_readInside_group halone (by simpa [Plain] using hplain) (by simp)
        (by simp [aroundGuard, nestLimit]) hread hclosed
    rw [Progress.add_eq] at hread
    have hjoin : joinParts (alone.tree.asParts ++ []) = alone.tree := by
      cases alone.tree <;> rfl
    replace hread := readElements_loop hplain hstar rfl hread
    rw [show Branches.join _ = joinParts (alone.tree.asParts ++ []) from rfl, hjoin] at hread
    exact ⟨rounds, last, hinside, hread⟩

/-- The pattern of a negation that is read to its end embeds. -/
theorem ReadInside.embeds (hinside : ReadInside flags pattern alone depth rounds last)
    (hdepth : 1 ≤ depth) (hwhole : whole.Gives reading)
    (hnumbered : whole.numbered = last.numbered) (hnames : whole.names = last.names)
    (hdone : whole.branches.done = []) : Embeds flags pattern alone := by
  refine ⟨rounds, last, ⟨hinside.rounds_le, hinside.gives, fun haround hle left =>
    hinside.readElements_eq haround (Nat.le_trans hle hdepth) left⟩, ?_⟩
  have htree := hwhole.tree
  rw [Progress.inner?, hdone, hnumbered, hnames] at htree
  cases hmixed : last.numbered && !last.names.isEmpty with
  | false => rfl
  | true =>
    rw [if_pos (by simpa using hmixed)] at htree
    cases htree

/-- The reading of a negation between anchors. -/
theorem read?_negation {strict : Bool}
    (halone : read? (flags.inlineGroup.toList ++ pattern) = some alone)
    (hread : read? (flags.inlineGroup.toList ++
      '^' :: (beforeGuarded strict ++ (pattern ++ (afterGuarded strict ++ ['$'])))) =
        some reading) :
    Embeds flags pattern alone ∧
      reading =
        { alone with
          tree := .concat
            [.look flags.modes.caret,
              loopTree flags.modes alone.loops (guardTree flags.modes strict alone.tree),
              .look flags.modes.dollar]
          loops := alone.loops + 1 } := by
  obtain ⟨whole, helements, hwhole⟩ := read?_eq_some_iff.mp hread
  replace helements := readElements_inlineGroup helements
  have hcaret (rest : List Char) : readNext { modes := flags.modes }
      ('^' :: (beforeGuarded strict ++ rest)) =
        some (Progress.add { modes := flags.modes } (.look flags.modes.caret),
          beforeGuarded strict ++ rest) := by
    cases strict <;> exact readNext_caret ':' (by decide) _
  replace helements := (Reads.single (hcaret _)).readElements_after helements
  obtain ⟨rounds, last, hinside, helements⟩ :=
    readElements_negation strict halone (by simp [Plain]) (by simp) helements hwhole.closed
  replace helements := (Reads.single
    (readNext_dollar (by simp [Plain]) (by simp))).readElements_after helements
  obtain rfl := readElements_nil helements
  refine ⟨hinside.embeds (by decide) hwhole rfl rfl rfl, ?_⟩
  rw [hwhole.eq, ← hinside.gives.groups, ← hinside.gives.loops, ← hinside.gives.referenced]
  rfl

/-- The reading of a negation without anchors. -/
theorem read?_bareNegation {strict : Bool}
    (halone : read? (flags.inlineGroup.toList ++ pattern) = some alone)
    (hread : read? (flags.inlineGroup.toList ++
      (beforeGuarded strict ++ (pattern ++ (afterGuarded strict ++ [])))) = some reading) :
    reading =
      { alone with
        tree := loopTree flags.modes alone.loops (guardTree flags.modes strict alone.tree)
        loops := alone.loops + 1 } := by
  obtain ⟨whole, helements, hwhole⟩ := read?_eq_some_iff.mp hread
  replace helements := readElements_inlineGroup helements
  obtain ⟨rounds, last, hinside, helements⟩ :=
    readElements_negation strict halone (by simp [Plain]) (by simp) helements hwhole.closed
  obtain rfl := readElements_nil helements
  rw [hwhole.eq, ← hinside.gives.groups, ← hinside.gives.loops, ← hinside.gives.referenced]
  rfl

end Alone

end Backtrack

end Patternwork
