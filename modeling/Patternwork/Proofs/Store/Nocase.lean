import Patternwork.Proofs.Flags.Language
import Patternwork.Proofs.Store.Outcome

namespace Patternwork

namespace Flags

variable {flags : Flags} {letters : String}

theorem isSome_parse?_push (hnew : 'i' ∉ letters.toList) :
    (parse? (letters.push 'i')).isSome = true ↔ (parse? letters).isSome = true := by
  have halphabet : 'i' ∈ Flag.alphabet := by decide
  have hapart : (∀ c ∈ letters.toList, c ≠ 'i') ↔ True :=
    iff_true_intro fun c hc heq => hnew (heq ▸ hc)
  rw [isSome_parse?_iff, isSome_parse?_iff, String.toList_push]
  simp [List.nodup_append, or_imp, forall_and, halphabet, hapart]

/-- One more letter is one more flag. -/
theorem parse?_push (hnew : 'i' ∉ letters.toList) (hparse : parse? letters = some flags) :
    parse? (letters.push 'i') = some { flags with ignoreCase := true } := by
  have hread := (isSome_parse?_push hnew).mpr (Option.isSome_of_eq_some hparse)
  obtain ⟨result, hresult⟩ := Option.isSome_iff_exists.mp hread
  rw [hresult]
  refine congrArg some (eq_of_has_iff fun flag => ?_)
  change _ ↔ (flags.insert .ignoreCase).has flag = true
  have hletter : flag.letter = 'i' ↔ flag = .ignoreCase :=
    ⟨fun heq => Flag.letter_injective heq, fun heq => heq ▸ rfl⟩
  rw [has_iff_of_parse? hresult, has_insert, String.toList_push, List.mem_append,
    List.mem_singleton, hletter, Bool.or_eq_true, decide_eq_true_eq, has_iff_of_parse? hparse,
    or_comm]

theorem ignoreCase_of_parse? (hold : 'i' ∈ letters.toList) (hparse : parse? letters = some flags) :
    { flags with ignoreCase := true } = flags := by
  have hset : flags.ignoreCase = true := (has_iff_of_parse? hparse .ignoreCase).mpr hold
  rw [← hset]

end Flags

namespace Settings

variable {record : Settings} {letters : String}

/-- The record without the entry of a name. -/
def without (record : Settings) (name : String) : Settings :=
  ⟨record.entries.filter (·.1 ≠ name), record.nodup.sublist (List.filter_sublist.map _)⟩

theorem get?_without (record : Settings) (name other : String) :
    (record.without name).get? other = if other = name then none else record.get? other := by
  apply Option.ext
  intro value
  rw [get?, lookup_eq_some_iff_mem (record.without name).nodup]
  by_cases heq : other = name
  · simp [without, heq]
  · rw [if_neg heq, get?, lookup_eq_some_iff_mem record.nodup]
    simp [without, heq]

theorem get?_withNocase (record : Settings) (name : String) :
    (record.withNocase true).get? name =
      if name = Name.nocase then some (.bool true) else record.get? name :=
  get?_set ..

/-- The record without `nocase` and with its flags given by their letters. -/
def spelled (record : Settings) (letters : String) : Settings :=
  (record.without Name.nocase).withFlags letters

theorem get?_spelled (record : Settings) (letters name : String) :
    (record.spelled letters).get? name =
      if name = Name.flags then some (.text letters)
      else if name = Name.nocase then none else record.get? name := by
  rw [spelled, withFlags, get?_set, get?_without]

theorem get?_withNocase_eq_spelled {name : String} (hflags : name ≠ Name.flags)
    (hnocase : name ≠ Name.nocase) :
    (record.withNocase true).get? name = (record.spelled letters).get? name := by
  rw [get?_withNocase, get?_spelled, if_neg hnocase, if_neg hflags, if_neg hnocase]

theorem flagLetters_spelled (record : Settings) (letters : String) :
    (record.spelled letters).flagLetters = letters := by
  have hnocase : (record.spelled letters).isTrue Name.nocase = false := by
    rw [isTrue, bool?, get?_spelled, if_neg (by decide), if_pos rfl]
    rfl
  have hgiven : ((record.spelled letters).truthyText? Name.flags).getD "" = letters := by
    rw [truthyText?, get?_spelled, if_pos rfl]
    by_cases hempty : letters = "" <;> simp [Option.filter, Setting.truthy, Setting.display, hempty]
  simp [flagLetters, hnocase, hgiven]

/-- The letter is added unless it is there already. -/
theorem flagLetters_withNocase (record : Settings) :
    (record.withNocase true).flagLetters =
      if 'i' ∈ record.flagLetters.toList then record.flagLetters
      else record.flagLetters.push 'i' := by
  have hflags : (record.withNocase true).truthyText? Name.flags = record.truthyText? Name.flags := by
    rw [truthyText?, truthyText?, get?_withNocase, if_neg (by decide)]
  have hnocase : (record.withNocase true).isTrue Name.nocase = true :=
    isTrue_iff.mpr (by rw [get?_withNocase, if_pos rfl])
  rw [flagLetters, flagLetters, hflags, hnocase]
  generalize (record.truthyText? Name.flags).getD "" = given
  by_cases hold : 'i' ∈ given.toList
  · simp [hold]
  · cases record.isTrue Name.nocase <;> simp [hold]

theorem isSome_parse?_withNocase (record : Settings) :
    (Flags.parse? (record.withNocase true).flagLetters).isSome = true ↔
      (Flags.parse? record.flagLetters).isSome = true := by
  rw [flagLetters_withNocase]
  split
  · rfl
  next hnew => exact Flags.isSome_parse?_push hnew

theorem parse?_withNocase {flags : Flags} (hparse : Flags.parse? record.flagLetters = some flags) :
    Flags.parse? (record.withNocase true).flagLetters =
      some { flags with ignoreCase := true } := by
  rw [flagLetters_withNocase]
  split
  next hold => rw [hparse, Flags.ignoreCase_of_parse? hold hparse]
  next hnew => exact Flags.parse?_push hnew hparse

end Settings

namespace World

open Settings

/-- Setting `nocase` neither breaks flags nor mends them, and adds one flag to those that are read.
    A call has the outcome that it has without `nocase` for the letters that were worked out. -/
theorem outcome_of_nocase (record : Settings) :
    let forced := record.withNocase true
    let letters := (resolve (some forced)).flags
    let plain := record.spelled letters
    ((Flags.parse? letters).isSome = true ↔
      (Flags.parse? (resolve (some record)).flags).isSome = true) ∧
    (∀ flags, Flags.parse? (resolve (some record)).flags = some flags →
      Flags.parse? letters = some { flags with ignoreCase := true }) ∧
    ∀ world later, Reaches {} world → Reaches {} later → ∀ (cache other : Nat) (text : String),
      SameOutcome (world.reply cache ⟨.make, .text text, some forced⟩)
        (later.reply other ⟨.make, .text text, some plain⟩) := by
  intro forced letters plain
  have hletters : letters = forced.flagLetters := flags_resolve _
  refine ⟨?_, ?_, ?_⟩
  · rw [hletters, flags_resolve]
    exact isSome_parse?_withNocase record
  · intro flags hparse
    rw [flags_resolve] at hparse
    rw [hletters]
    exact parse?_withNocase hparse
  · intro world later hworld hlater cache other text
    have hshape : ((some forced).getD empty).AgreeOnShape ((some plain).getD empty) :=
      agreeOnShape_of_get?_eq fun _ => get?_withNocase_eq_spelled
    have hflags : (resolve (some plain)).flags = letters := by
      rw [flags_resolve]
      exact flagLetters_spelled record letters
    have herrors : forced.get? Name.strictErrors = plain.get? Name.strictErrors :=
      get?_withNocase_eq_spelled (by decide) (by decide)
    have hstrict : (resolve (some forced)).strictErrors = (resolve (some plain)).strictErrors := by
      rw [strictErrors_resolve, strictErrors_resolve, Settings.isFalse, Settings.isFalse, bool?,
        bool?]
      exact congrArg (fun value => !(value.bind Setting.bool? == some false)) herrors
    exact (returned_of_text hworld cache text (some forced)).sameOutcome
      (returned_of_text hlater other text (some plain)) (hshape.assembled_eq text) hflags.symm
      hstrict

/-- Letters without `i`, and a cache that holds a pattern. -/
theorem outcome_of_nocase_of_letters :
    let world := (perform {} (.call 0 ⟨.make, .text "a", none⟩)).2
    let record := Settings.ofList [("flags", .text "gm"), ("strict", .bool false)]
    let plain := Settings.ofList [("flags", .text "gmi"), ("strict", .bool false)]
    Flags.parse? "gmi" = some { global := true, multiLine := true, ignoreCase := true } ∧
    SameOutcome (world.reply 0 ⟨.make, .text "a", some (record.withNocase true)⟩)
      (World.reply {} 1 ⟨.make, .text "a", some plain⟩) := by
  intro world record plain
  have hreach : Reaches {} world :=
    .single (.perform (.call 0 _) (by simp [Operation.patterns, Input.patterns]))
  obtain ⟨_, hparse, houtcome⟩ := outcome_of_nocase record
  have hforced : (resolve (some (record.withNocase true))).flags = "gmi" := by decide +kernel
  have hgiven : Flags.parse? (resolve (some record)).flags =
      some { global := true, multiLine := true } := by decide +kernel
  have hplain : record.spelled "gmi" = plain := by decide +kernel
  have hadded := hparse _ hgiven
  have hsame := houtcome world {} hreach .refl 0 1 "a"
  rw [hforced] at hadded hsame
  rw [hplain] at hsame
  exact ⟨hadded, hsame⟩

end World

end Patternwork
