import Patternwork.Flags
import Patternwork.Regular.Reader

namespace Patternwork.Regular

variable {rest : List Char}

/-- A text that cannot be read, wherever it stands, unless blanks are passed over. -/
def Unreadable (input : List Char) : Prop :=
  ∀ fuel progress, progress.modes.verbose = false → readElements fuel progress input = none

theorem unreadable_of_element {c : Char}
    (hnone : ∀ progress : Progress, progress.modes.verbose = false →
      readElement progress (c :: rest) = none) : Unreadable (c :: rest) := by
  intro fuel progress hmodes
  cases fuel with
  | zero => rfl
  | succ fuel => simp [readElements, Modes.skip, hmodes, hnone progress hmodes]

/-- A text cannot be read if what comes after its first element cannot. -/
theorem Unreadable.after {c : Char} {input : List Char} (hrest : Unreadable rest)
    (next : Progress → Progress)
    (hread : ∀ progress : Progress, progress.modes.verbose = false →
      readElement progress (c :: input) = some (next progress, rest) ∧
        (next progress).modes.verbose = false) : Unreadable (c :: input) := by
  intro fuel progress hmodes
  cases fuel with
  | zero => rfl
  | succ fuel =>
    obtain ⟨hread, hnext⟩ := hread progress hmodes
    simpa [readElements, Modes.skip, hmodes, hread] using hrest fuel (next progress) hnext

theorem unreadable_notAhead (rest : List Char) : Unreadable ('(' :: '?' :: '!' :: rest) :=
  unreadable_of_element fun progress hmodes => by
    simp [readElement, readGroup, Modes.skip, hmodes]

theorem Unreadable.scoped (hrest : Unreadable rest) :
    Unreadable ('(' :: '?' :: ':' :: rest) :=
  hrest.after (fun progress => progress.openGroup progress.modes false) fun progress hmodes =>
    ⟨by simp [readElement, readGroup, Modes.skip, hmodes, readFlags], hmodes⟩

theorem Unreadable.caret (hrest : Unreadable rest) : Unreadable ('^' :: rest) :=
  hrest.after (fun progress => progress.addLeaf (.look progress.modes.caret))
    fun _ hmodes => ⟨rfl, hmodes⟩

theorem Unreadable.inlineGroup (hrest : Unreadable rest) (flags : Flags) :
    Unreadable (flags.inlineGroup.toList ++ rest) := by
  let next (progress : Progress) : Progress :=
    ({ progress with
        modes :=
          { progress.modes with
            ignoreCase := progress.modes.ignoreCase || flags.ignoreCase
            multiLine := progress.modes.multiLine || flags.multiLine
            dotAll := progress.modes.dotAll || flags.dotAll } } : Progress).add
      { node := .empty, depth := 0, repeatable := false }
  obtain ⟨_, _, i, m, s, _, _, _⟩ := flags
  cases i <;> cases m <;> cases s
  case false.false.false => exact hrest
  all_goals
    simp only [Flags.inlineGroup, Flags.matching, List.filter_cons, List.filter_nil, Flags.has,
      Flag.letter, Bool.false_eq_true, reduceIte, List.map_cons, List.map_nil, String.ofList_cons,
      String.reduceSingleton, String.ofList_nil, String.append_empty, String.reduceAppend,
      String.reduceToList, List.cons_append, List.nil_append]
    refine hrest.after next fun progress hmodes => ⟨?_, hmodes⟩
    simp [readElement, readGroup, Modes.skip, hmodes, readFlags, setMode?, next]

theorem Unreadable.parse?_eq_none {input : List Char} (hinput : Unreadable input) :
    parse? input = none := by
  simp [parse?, hinput (input.length + 1) {} rfl]

end Patternwork.Regular
