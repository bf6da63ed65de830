import Patternwork.Proofs.Backtrack.Reading.Token

namespace Patternwork.Backtrack

variable {modes : Modes} {progress : Progress} {a : Tree}

/-- The token is added to what has been read. -/
def Token.addTo (progress : Progress) (read : Token × List Char) :
    Option (Progress × List Char) :=
  (read.1.act? progress read.2.length).map fun next => (next, read.2)

def Element.addTo (progress : Progress) (before : Nat) (read : Element × List Char) :
    Option (Progress × List Char) :=
  (read.1.act? progress before read.2.length).map fun next => (next, read.2)

theorem addQuantified_eq (progress : Progress) (a : Tree) (input : List Char) :
    addQuantified progress a input =
      (readRepetition progress.modes input).bind fun read =>
        (progress.addRepeated? a read.1).map fun next => (next, read.2) := by
  unfold addQuantified readRepetition Scan.orElse readRange
  cases skip progress.modes input with
  | none => rfl
  | some rest =>
    simp only [Option.bind_eq_bind, Option.bind_some]
    cases readQuantifier progress.modes rest with
    | none => rfl
    | some found =>
      obtain ⟨least, greatest, rest⟩ := found
      cases hrepeatable : isRepeatable a with
      | false =>
        refine (Option.bind_eq_none_iff.mpr fun read hread => ?_).symm
        obtain ⟨quantifier, _, rfl⟩ := Option.map_eq_some_iff.mp hread
        simp [Progress.addRepeated?, hrepeatable]
      | true =>
        simp only [reduceIte, Option.map_some, readMarks]
        cases skip progress.modes rest with
        | none => rfl
        | some rest =>
          simp only [Option.bind_some, Progress.addRepeated?, hrepeatable, reduceIte]
          cases rest with
          | nil => simp [Scan.mark]
          | cons c rest =>
            by_cases hlazy : c = '?'
            · subst hlazy
              cases rest with
              | nil => simp [Scan.mark]
              | cons d rest => by_cases hatomic : d = '+' <;> simp [Scan.mark, hatomic]
            · by_cases hatomic : c = '+' <;> simp [Scan.mark, hlazy, hatomic]

theorem readRepetition_of_none {input rest : List Char} (hskip : skip modes input = some rest)
    (hquantifier : readQuantifier modes rest = none) :
    readRepetition modes input = some (none, rest) := by
  simp [readRepetition, hskip, Scan.orElse, readRange, hquantifier]

/-- A part is added as it is where no quantifier follows it. -/
theorem addQuantified_of_none {input rest : List Char} (hskip : skip progress.modes input = some rest)
    (hquantifier : readQuantifier progress.modes rest = none) (a : Tree) :
    addQuantified progress a input = some (progress.add a, rest) := by
  rw [addQuantified_eq, readRepetition_of_none hskip hquantifier]
  rfl

/-- A part is added with the quantifier after it. -/
theorem addQuantified_eq_addTo {token : Option Quantifier → Token} {added : Progress}
    (hact : ∀ repetition after, (token repetition).act? progress after =
      added.addRepeated? a repetition) (rest : List Char) :
    addQuantified added a rest = (scanRepeated added.modes token rest).bind (Token.addTo progress) := by
  rw [addQuantified_eq, scanRepeated, Option.bind_map]
  congr 1
  funext read
  rw [Function.comp_apply, Token.addTo, hact]

/-- A token that cannot be added, whatever the quantifier after it. -/
theorem scanRepeated_bind_eq_none {token : Option Quantifier → Token}
    (hact : ∀ repetition after, (token repetition).act? progress after = none)
    (rest : List Char) :
    (scanRepeated modes token rest).bind (Token.addTo progress) = none := by
  rw [scanRepeated, Option.bind_map]
  refine Option.bind_eq_none_iff.mpr fun read _ => ?_
  rw [Function.comp_apply, Token.addTo, hact]
  rfl

/-- Nothing is noted about a reference but that there is one. -/
theorem eq_of_find? {target : Target} {found : Progress × Nat}
    (hfind : target.find? progress = some found) :
    ∃ referenced numbered, found.1 = { progress with referenced, numbered } := by
  have hrefer {index : Nat} {noted : Progress} (hrefer : progress.refer? index = some noted) :
      noted = { progress with referenced := index :: progress.referenced } :=
    (Option.some.inj (Option.ite_none_right_eq_some.mp hrefer).2).symm
  cases target with
  | named name =>
    obtain ⟨index, _, hfind⟩ := Option.bind_eq_some_iff.mp hfind
    obtain ⟨noted, hnoted, rfl⟩ := Option.map_eq_some_iff.mp hfind
    exact ⟨_, _, hrefer hnoted⟩
  | numbered index =>
    obtain ⟨noted, hnoted, rfl⟩ := Option.map_eq_some_iff.mp hfind
    obtain rfl := hrefer hnoted
    exact ⟨_, _, rfl⟩

theorem modes_of_find? {target : Target} {found : Progress × Nat}
    (hfind : target.find? progress = some found) : found.1.modes = progress.modes := by
  obtain ⟨_, _, heq⟩ := eq_of_find? hfind
  rw [heq]

/-- A reference is added if the group is found. -/
theorem reference_eq_addTo {token : Option Quantifier → Token} (target : Target)
    (hact : ∀ repetition after, (token repetition).act? progress after =
      (target.find? progress).bind fun found => found.1.addRepeated? (.backref found.2) repetition)
    (rest : List Char) :
    ((target.find? progress).bind fun found => addQuantified found.1 (.backref found.2) rest) =
      (scanRepeated progress.modes token rest).bind (Token.addTo progress) := by
  cases hfind : target.find? progress with
  | none =>
    refine (scanRepeated_bind_eq_none (fun repetition after => ?_) rest).symm
    rw [hact, hfind]
    rfl
  | some found =>
    rw [Option.bind_some, ← modes_of_find? hfind]
    refine addQuantified_eq_addTo (fun repetition after => ?_) rest
    rw [hact, hfind, Option.bind_some]

theorem readNamed_eq (progress : Progress) (stop : Char) (relative : Bool) (input : List Char) :
    readNamed progress stop relative input =
      (readName stop relative input).bind fun read =>
        ((Target.named read.1).find? progress).map fun found => (found.1, found.2, read.2) := by
  unfold readNamed Target.find?
  cases readName stop relative input with
  | none => rfl
  | some read =>
    simp only [Option.bind_eq_bind, Option.bind_some]
    cases progress.groupNamed? read.1 with
    | none => rfl
    | some index => cases hrefer : progress.refer? index <;> simp [hrefer]

theorem readNumbered_eq (progress : Progress) (input : List Char) :
    readNumbered progress input =
      (readNumber input).bind fun read =>
        ((Target.numbered read.1).find? progress).map fun found => (found.1, found.2, read.2) := by
  unfold readNumbered Target.find?
  cases readNumber input with
  | none => rfl
  | some read => cases hrefer : progress.refer? read.1 <;> simp [hrefer]

theorem named_eq_addTo (token : List Char → Option Quantifier → Token) (stop : Char)
    (relative : Bool)
    (hact : ∀ name repetition after, (token name repetition).act? progress after =
      ((Target.named name).find? progress).bind fun found =>
        found.1.addRepeated? (.backref found.2) repetition) (rest : List Char) :
    ((readNamed progress stop relative rest).bind fun found =>
        addQuantified found.1 (.backref found.2.1) found.2.2) =
      ((readName stop relative rest).bind fun read =>
        scanRepeated progress.modes (token read.1) read.2).bind (Token.addTo progress) := by
  rw [readNamed_eq, Option.bind_assoc, Option.bind_assoc]
  congr 1
  funext read
  rw [← reference_eq_addTo (.named read.1) (hact read.1), Option.bind_map]
  rfl

theorem numbered_eq_addTo (rest : List Char) :
    ((readNumbered progress rest).bind fun found =>
        addQuantified found.1 (.backref found.2.1) found.2.2) =
      ((readNumber rest).bind fun read =>
        scanRepeated progress.modes (.reference (.numbered read.1)) read.2).bind
          (Token.addTo progress) := by
  rw [readNumbered_eq, Option.bind_assoc, Option.bind_assoc]
  congr 1
  funext read
  rw [← reference_eq_addTo (.numbered read.1) fun _ _ => rfl, Option.bind_map]
  rfl

/-- Adds what an escape stands for. -/
def Progress.addAtom (progress : Progress) (found : Atom × List Char) :
    Option (Progress × List Char) :=
  match found.1 with
  | .literal c foldable =>
    addQuantified progress (.set (if foldable then progress.modes.literal c else .single c)) found.2
  | .members text foldable =>
    (members? progress.modes foldable text).bind fun set =>
      addQuantified progress (.set set) found.2
  | .look condition => addQuantified progress (.look condition) found.2
  | .keepOut => addQuantified progress .keepOut found.2
  | .searchStart => addQuantified progress .searchStart found.2

theorem addAtom_eq (atom : Atom) (rest : List Char) :
    progress.addAtom (atom, rest) =
      ((atom.leaf? progress.modes).bind fun a =>
        scanRepeated progress.modes (.leaf a) rest).bind (Token.addTo progress) := by
  have hleaf (a : Leaf) : addQuantified progress a.tree rest =
      (scanRepeated progress.modes (.leaf a) rest).bind (Token.addTo progress) :=
    addQuantified_eq_addTo (fun _ _ => rfl) rest
  cases atom with
  | literal c foldable => exact hleaf (.set _)
  | members text foldable =>
    rw [Atom.leaf?, Option.bind_map, Option.bind_assoc]
    exact Option.bind_congr fun set _ => hleaf (.set set)
  | look condition => exact hleaf (.look condition)
  | keepOut => exact hleaf .keepOut
  | searchStart => exact hleaf .searchStart

theorem scanAtom_bind (input : List Char) :
    (readAtom false input).bind progress.addAtom =
      (scanAtom progress.modes input).bind (Token.addTo progress) := by
  rw [scanAtom, Option.bind_assoc, Option.bind_assoc]
  refine Option.bind_congr fun read _ => ?_
  rw [addAtom_eq, Option.bind_map, Option.bind_assoc]
  rfl

theorem readEscape_eq (progress : Progress) (input : List Char) :
    readEscape progress input =
      (scanEscape progress.modes input).bind (Token.addTo progress) := by
  unfold readEscape
  split
  case h_1 rest =>
    exact named_eq_addTo (fun name => .reference (.named name)) '\'' true (fun _ _ _ => rfl) rest
  case h_2 rest =>
    exact named_eq_addTo (fun name => .reference (.named name)) '>' true (fun _ _ _ => rfl) rest
  case h_3 rest hquote hangle =>
    have hquoted : readQuoted rest = none := by
      unfold readQuoted
      split
      · exact absurd rfl (hquote _)
      · exact absurd rfl (hangle _)
      · rfl
    simp [scanEscape, scanLetter, hquoted]
  case h_4 _ _ hletter =>
    unfold scanEscape
    split
    · exact numbered_eq_addTo input
    · have hatom : scanLetter progress.modes input = scanAtom progress.modes input := by
        unfold scanLetter
        split
        next => exact absurd rfl (hletter _)
        next => rfl
      rw [hatom, ← scanAtom_bind]
      rfl

theorem tested_eq_addTo (target : Target) (rest : List Char) :
    ((target.find? progress).bind fun found =>
        (readClose found.1.modes rest).bind fun after =>
          (found.1.openAs? (.conditional (.backref found.2) after.length)).map
            fun opened => (opened, after)) =
      (scanTested progress.modes target rest).bind (Token.addTo progress) := by
  have hclose : scanTested progress.modes target rest =
      (readClose progress.modes rest).map fun after => (.tested target, after) := by
    unfold scanTested readClose
    cases skip progress.modes rest with
    | none => rfl
    | some before =>
      cases before with
      | nil => rfl
      | cons c after => by_cases hc : c = ')' <;> simp [closeTested, hc]
  rw [hclose, Option.bind_map]
  cases hfind : target.find? progress with
  | none =>
    refine (Option.bind_eq_none_iff.mpr fun after _ => ?_).symm
    simp [Token.addTo, Token.act?, hfind]
  | some found =>
    rw [Option.bind_some, modes_of_find? hfind]
    refine Option.bind_congr fun after _ => ?_
    simp [Token.addTo, Token.act?, hfind]

/-- Opens the branches of a conditional that tests a group. -/
def openTested (found : Progress × Nat × List Char) : Option (Progress × List Char) :=
  (readClose found.1.modes found.2.2).bind fun rest =>
    (found.1.openAs? (.conditional (.backref found.2.1) rest.length)).bind
      fun opened => some (opened, rest)

theorem openTested_eq_addTo (target : Target) (rest : List Char) :
    ((target.find? progress).map fun found => (found.1, found.2, rest)).bind openTested =
      (scanTested progress.modes target rest).bind (Token.addTo progress) := by
  rw [← tested_eq_addTo, Option.bind_map]
  refine Option.bind_congr fun found _ => Option.bind_congr fun after _ => ?_
  exact Option.map_eq_bind.symm

theorem readCondition_eq (progress : Progress) (input : List Char) :
    readCondition progress input =
      (scanCondition progress.modes input).bind (Token.addTo progress) := by
  have hnamed (stop : Char) (rest : List Char) :
      (readNamed progress stop true rest).bind openTested =
        ((readName stop true rest).bind fun read =>
          scanTested progress.modes (.named read.1) read.2).bind (Token.addTo progress) := by
    rw [readNamed_eq, Option.bind_assoc, Option.bind_assoc]
    exact Option.bind_congr fun read _ => openTested_eq_addTo (.named read.1) read.2
  cases input with
  | nil => exact Option.map_eq_bind.symm
  | cons c rest =>
    by_cases hquote : c = '\''
    · subst hquote
      exact hnamed '\'' rest
    · by_cases hangle : c = '<'
      · subst hangle
        exact hnamed '>' rest
      · cases hdigit : c.isDigit with
        | true =>
          have hread : readCondition progress (c :: rest) =
              (readNumbered progress (c :: rest)).bind openTested := by
            simp [readCondition, hdigit]
            rfl
          have hscan : scanCondition progress.modes (c :: rest) =
              (readNumber (c :: rest)).bind fun read =>
                scanTested progress.modes (.numbered read.1) read.2 := by
            simp [scanCondition, hquote, hangle, hdigit]
          rw [hread, hscan, readNumbered_eq, Option.bind_assoc, Option.bind_assoc]
          exact Option.bind_congr fun read _ => openTested_eq_addTo (.numbered read.1) read.2
        | false =>
          have hscan : scanCondition progress.modes (c :: rest) =
              some (.opening .condition, c :: rest) := by
            simp [scanCondition, hquote, hangle, hdigit]
          have hread : readCondition progress (c :: rest) =
              (progress.openAs? .condition).bind fun opened => some (opened, c :: rest) := by
            simp [readCondition, hdigit]
          rw [hread, hscan]
          exact Option.map_eq_bind.symm

theorem openNamed_eq (progress : Progress) (input : List Char) :
    openNamed progress input = (scanNamed input).bind (Token.addTo progress) := by
  unfold openNamed openGroup scanNamed
  cases readName '>' false input with
  | none => rfl
  | some read =>
    by_cases hroom : progress.enclosing.length + 1 < nestLimit <;>
      simp [Token.addTo, Token.act?, Progress.openNumbered?, Progress.openAs?, hroom]

/-- Flags are read where there is room for a group. -/
theorem switch_eq_addTo (input : List Char) :
    ((progress.openAs? .atomic).bind fun _ =>
      (skip progress.modes input).bind fun rest =>
        (readFlags rest.length (rest.length + 1) progress.modes true rest).bind fun read =>
          if read.2.1 = ':' then
            (({ progress with modes := read.1 } : Progress).openAs? (.scoped progress.modes)).bind
              fun opened => some (opened, read.2.2)
          else addQuantified { progress with modes := read.1 } .empty read.2.2) =
      (scanSwitch progress.modes input).bind (Token.addTo progress) := by
  cases hopen : progress.openAs? .atomic with
  | none =>
    have hroom : ¬ progress.enclosing.length + 1 < nestLimit := by
      simpa [Progress.openAs?] using hopen
    refine (Option.bind_eq_none_iff.mpr fun read hread => ?_).symm
    obtain ⟨found, _, hread⟩ := Option.bind_eq_some_iff.mp hread
    unfold switchToken at hread
    split at hread
    · obtain rfl := Option.some.inj hread
      simp [Token.addTo, Token.act?, Progress.openAs?, hroom]
    · obtain ⟨_, _, rfl⟩ := Option.map_eq_some_iff.mp hread
      simp [Token.addTo, Token.act?, hopen]
  | some opened =>
    rw [Option.bind_some, scanSwitch, scanFlags, Option.bind_assoc, Option.bind_assoc]
    refine Option.bind_congr fun rest _ => ?_
    rw [Option.bind_map]
    refine Option.bind_congr fun read _ => ?_
    rw [Function.comp_apply, switchToken]
    split
    · exact Option.map_eq_bind.symm
    · refine addQuantified_eq_addTo (fun repetition after => ?_) read.2.2
      rw [Token.act?, hopen, Option.bind_some]

/-- A reference to a group by its name is read where there is room for a group. -/
theorem groupReference_eq_addTo (rest : List Char) :
    ((progress.openAs? .atomic).bind fun _ =>
      (readNamed progress ')' false rest).bind fun found =>
        addQuantified found.1 (.backref found.2.1) found.2.2) =
      ((readName ')' false rest).bind fun read =>
        scanRepeated progress.modes (.groupReference read.1) read.2).bind
          (Token.addTo progress) := by
  cases hopen : progress.openAs? .atomic with
  | none =>
    refine (Option.bind_eq_none_iff.mpr fun read hread => ?_).symm
    obtain ⟨name, _, hread⟩ := Option.bind_eq_some_iff.mp hread
    obtain ⟨_, _, rfl⟩ := Option.map_eq_some_iff.mp hread
    simp [Token.addTo, Token.act?, hopen]
  | some opened =>
    refine named_eq_addTo .groupReference ')' false (fun name repetition after => ?_) rest
    rw [Token.act?, hopen, Option.bind_some]

/-- No flags begin with the mark of names, so what does not go on as one is read neither way. -/
theorem scanSwitch_of_naming (modes : Modes) (rest : List Char) :
    scanSwitch modes ('P' :: rest) = none := by
  have hskip : skip modes ('P' :: rest) = some ('P' :: rest) := by simp [skip, skipIgnored]
  have hflags : scanFlags modes ('P' :: rest) = none := by
    rw [scanFlags, hskip, Option.bind_some, readFlags_of_skip hskip]
    rfl
  rw [scanSwitch, hflags, Option.bind_none]

/-- What no mark begins is a switch of flags. -/
theorem scanMarked_eq_scanSwitch {input : List Char}
    (hplain : ∀ c rest, input = c :: rest → c ∈ marks → c = 'P' ∧ scanNaming modes rest = none) :
    scanMarked modes input = scanSwitch modes input := by
  cases input with
  | nil => rfl
  | cons c rest =>
    by_cases hmark : c ∈ marks
    · obtain ⟨rfl, hnaming⟩ := hplain c rest rfl hmark
      rw [scanSwitch_of_naming]
      exact hnaming
    · exact if_neg (by simpa using hmark)

theorem readGroup_eq (progress : Progress) (input : List Char) :
    readGroup progress input =
      ((skip progress.modes input).bind (scanGroup progress.modes)).bind (Token.addTo progress) := by
  unfold readGroup
  rw [Option.bind_assoc]
  cases skip progress.modes input with
  | none => rfl
  | some input =>
    simp only [Option.bind_eq_bind, Option.bind_some]
    split
    case h_1 => rfl
    case h_2 => rfl
    case h_3 => rfl
    case h_4 => rfl
    case h_5 rest hequal hnot =>
      have hangle : scanAngle rest = scanNamed rest := by
        cases rest with
        | nil => rfl
        | cons c rest =>
          refine if_neg ?_
          rintro (rfl | rfl)
          · exact hequal rest rfl
          · exact hnot rest rfl
      change openNamed progress rest = (scanAngle rest).bind _
      rw [hangle]
      exact openNamed_eq progress rest
    case h_6 rest => exact openNamed_eq progress rest
    case h_7 rest => exact groupReference_eq_addTo rest
    case h_8 => rfl
    case h_9 rest => exact readCondition_eq progress rest
    case h_10 rest hahead hnot hbehind hbehindNot hangle hnamed hreference hatomic hcondition =>
      have hswitch : scanMarked progress.modes rest = scanSwitch progress.modes rest := by
        refine scanMarked_eq_scanSwitch fun c after hinput hmark => ?_
        subst hinput
        simp only [marks, List.mem_cons, List.not_mem_nil, or_false] at hmark
        rcases hmark with rfl | rfl | rfl | rfl | rfl | rfl
        · exact absurd rfl (hahead after)
        · exact absurd rfl (hnot after)
        · exact absurd rfl (hangle after)
        · refine ⟨rfl, ?_⟩
          unfold scanNaming
          split
          next rest => exact absurd rfl (hnamed rest)
          next rest => exact absurd rfl (hreference rest)
          next => rfl
        · exact absurd rfl (hatomic after)
        · exact absurd rfl (hcondition after)
      change _ = (scanMarked progress.modes rest).bind _
      rw [hswitch]
      exact switch_eq_addTo rest
    case h_11 hmark =>
      have hgroup : scanGroup progress.modes input = some (.group none, input) := by
        unfold scanGroup
        split
        next => exact absurd rfl (hmark _)
        next => rfl
      rw [hgroup]
      exact Option.map_eq_bind.symm

theorem closeGroup_eq (progress : Progress) (input rest : List Char) :
    closeGroup progress input rest =
      ((readAfter progress.modes (progress.enclosing.head?.map Enclosing.opening) rest).bind
        fun read => (progress.closeGroup? input.length read.2.length read.1).map
          fun next => (next, read.2)) := by
  have hnone (hact : ∀ repetition after, progress.closeGroup? input.length after repetition = none) :
      ((readAfter progress.modes (progress.enclosing.head?.map Enclosing.opening) rest).bind
        fun read => (progress.closeGroup? input.length read.2.length read.1).map
          fun next => (next, read.2)) = none :=
    Option.bind_eq_none_iff.mpr fun read _ => by rw [hact, Option.map_none]
  unfold closeGroup
  cases henclosing : progress.enclosing with
  | nil =>
    rw [henclosing] at hnone
    exact (hnone fun _ _ => by rw [Progress.closeGroup?, henclosing]).symm
  | cons outer enclosing =>
    have hact (repetition : Option Quantifier) (after : Nat) :
        progress.closeGroup? input.length after repetition =
          progress.inner?.bind fun inner =>
            ({ progress with enclosing, branches := outer.branches } : Progress).close? inner
              input.length after repetition outer.opening := by
      rw [Progress.closeGroup?, henclosing]
    rw [henclosing] at hnone
    cases hinner : progress.inner? with
    | none => exact (hnone fun _ _ => by rw [hact, hinner, Option.bind_none]).symm
    | some inner =>
      simp only [hinner, Option.bind_some] at hact
      obtain ⟨opening, branches⟩ := outer
      simp only [hact]
      cases opening with
      | group | ahead | behind | atomic | «scoped» => exact addQuantified_eq _ _ rest
      | condition => exact Option.map_eq_bind.symm
      | conditional tested start =>
        simp only [Progress.close?, Option.bind_eq_bind, Option.bind_some]
        split
        · exact (Option.bind_eq_none_iff.mpr fun read _ => rfl).symm
        · exact addQuantified_eq _ _ rest

theorem readElement_eq (progress : Progress) (input : List Char) :
    readElement progress input =
      (scanElement progress.modes (progress.enclosing.head?.map Enclosing.opening) input).bind
        (Element.addTo progress input.length) := by
  have htoken (c : Char) (rest : List Char) (hc : c ≠ ')') :
      (scanElement progress.modes (progress.enclosing.head?.map Enclosing.opening) (c :: rest)).bind
        (Element.addTo progress (c :: rest).length) =
          (scanToken progress.modes c rest).bind (Token.addTo progress) := by
    rw [scanElement, if_neg hc, Option.bind_map]
    rfl
  have hleaf (a : Leaf) (rest : List Char) : addQuantified progress a.tree rest =
      (scanRepeated progress.modes (.leaf a) rest).bind (Token.addTo progress) :=
    addQuantified_eq_addTo (fun _ _ => rfl) rest
  unfold readElement
  split
  case h_1 => rfl
  case h_2 rest => exact (hleaf (.set _) _).trans (htoken '.' rest (by decide)).symm
  case h_3 rest => exact (hleaf (.look _) _).trans (htoken '^' rest (by decide)).symm
  case h_4 rest => exact (hleaf (.look _) _).trans (htoken '$' rest (by decide)).symm
  case h_5 rest => exact (readGroup_eq progress _).trans (htoken '(' rest (by decide)).symm
  case h_6 rest =>
    rw [closeGroup_eq, scanElement, if_pos rfl, Option.bind_map]
    rfl
  case h_7 => rfl
  case h_8 rest => exact (readEscape_eq progress _).trans (htoken '\\' rest (by decide)).symm
  case h_9 rest =>
    rw [htoken '[' rest (by decide)]
    change _ = ((readSet progress.modes rest).bind fun read =>
      scanRepeated progress.modes (.leaf (.set read.1)) read.2).bind _
    rw [readClass_eq, Option.bind_assoc]
    simp only [Option.bind_eq_bind, Option.bind_map]
    exact Option.bind_congr fun read _ => hleaf (.set read.1) read.2
  case h_10 | h_11 | h_12 => rfl
  case h_13 c rest _ _ _ _ hclose _ _ _ _ _ _ =>
    rw [htoken c rest hclose]
    have hscan : scanToken progress.modes c =
        scanRepeated progress.modes (.leaf (.set (progress.modes.literal c))) := by
      unfold scanToken
      split <;> simp_all
    rw [hscan]
    exact hleaf (.set _) rest

end Patternwork.Backtrack
