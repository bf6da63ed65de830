import Mathlib.Data.List.Perm.Basic
import Patternwork.Proofs.Compilation
import Patternwork.Proofs.Flags

namespace Patternwork

namespace Flag

/-- The letters of flags, in the order in which they are shown. -/
def alphabet : List Char := ['d', 'g', 'i', 'm', 's', 'u', 'v', 'y']

theorem map_letter_all : all.map letter = alphabet := rfl

theorem mem_all (flag : Flag) : flag ∈ all := by
  cases flag <;> decide

theorem mem_alphabet {c : Char} : c ∈ alphabet ↔ ∃ flag : Flag, flag.letter = c := by
  rw [← map_letter_all, List.mem_map]
  exact exists_congr fun flag => and_iff_right flag.mem_all

theorem ofLetter?_eq_none_iff {c : Char} : ofLetter? c = none ↔ c ∉ alphabet := by
  rw [Option.eq_none_iff_forall_ne_some, mem_alphabet, not_exists]
  exact forall_congr' fun flag => not_congr ofLetter?_eq_some_iff

end Flag

namespace Flags

variable {flags others : Flags} {flag : Flag} {c : Char}

/-- Sets with the same flags are equal. -/
theorem eq_of_has_iff (hsame : ∀ flag, flags.has flag = true ↔ others.has flag = true) :
    flags = others := by
  have heq (flag : Flag) : flags.has flag = others.has flag := Bool.eq_iff_iff.mpr (hsame flag)
  obtain ⟨_, _, _, _, _, _, _, _⟩ := flags
  obtain ⟨_, _, _, _, _, _, _, _⟩ := others
  rw [mk.injEq]
  exact ⟨heq .hasIndices, heq .global, heq .ignoreCase, heq .multiLine, heq .dotAll, heq .unicode,
    heq .unicodeSets, heq .sticky⟩

/-- A character is the letter of a flag that is not in the set. -/
def Awaits (flags : Flags) (c : Char) : Prop :=
  ∃ flag : Flag, flag.letter = c ∧ flags.has flag = false

theorem awaits_letter : flags.Awaits flag.letter ↔ flags.has flag = false := by
  constructor
  · rintro ⟨other, hletter, hopen⟩
    rwa [← Flag.letter_injective hletter]
  · exact fun hopen => ⟨flag, rfl, hopen⟩

theorem awaits_insert : (flags.insert flag).Awaits c ↔ c ≠ flag.letter ∧ flags.Awaits c := by
  simp only [Awaits, has_insert, Bool.or_eq_false_iff, decide_eq_false_iff_not]
  constructor
  · rintro ⟨other, rfl, hne, hopen⟩
    exact ⟨fun heq => hne (Flag.letter_injective heq), other, rfl, hopen⟩
  · rintro ⟨hne, other, rfl, hopen⟩
    exact ⟨other, rfl, fun heq => hne (congrArg Flag.letter heq), hopen⟩

theorem awaits_empty : ({} : Flags).Awaits c ↔ c ∈ Flag.alphabet := by
  have hnone (flag : Flag) : ({} : Flags).has flag = false := by cases flag <;> rfl
  simp [Awaits, Flag.mem_alphabet, hnone]

/-- The letters that are read are those that the set awaits, each of them once. -/
theorem isSome_read_iff {letters : List Char} :
    (flags.read letters).isSome = true ↔ (∀ c ∈ letters, flags.Awaits c) ∧ letters.Nodup := by
  induction letters generalizing flags with
  | nil => simp [read]
  | cons c rest ih =>
    rw [List.forall_mem_cons, List.nodup_cons]
    cases hfound : Flag.ofLetter? c with
    | none =>
      have hunknown : ¬ flags.Awaits c := by
        rintro ⟨flag, hletter, _⟩
        exact Flag.ofLetter?_eq_none_iff.mp hfound (Flag.mem_alphabet.mpr ⟨flag, hletter⟩)
      have hread : flags.read (c :: rest) = none := by simp [read, hfound]
      simp [hread, hunknown]
    | some flag =>
      obtain rfl := Flag.ofLetter?_eq_some_iff.mp hfound
      have hread : flags.read (flag.letter :: rest) =
          if flags.has flag then none else (flags.insert flag).read rest := by
        simp [read, hfound]
      rw [hread, awaits_letter]
      cases hused : flags.has flag with
      | true => simp
      | false =>
        have hfresh : (∀ c ∈ rest, c ≠ flag.letter) ↔ flag.letter ∉ rest :=
          ⟨fun hne hmem => hne _ hmem rfl, fun hmem c hc heq => hmem (heq ▸ hc)⟩
        simp only [Bool.false_eq_true, if_false, ih, awaits_insert, imp_and, forall_and, hfresh]
        tauto

theorem toList_letters (flags : Flags) :
    flags.letters.toList = (Flag.all.filter flags.has).map Flag.letter := by
  rw [letters, String.toList_ofList]

theorem mem_letters : flag.letter ∈ flags.letters.toList ↔ flags.has flag = true := by
  rw [toList_letters, List.mem_map]
  constructor
  · rintro ⟨other, hother, hletter⟩
    rw [← Flag.letter_injective hletter]
    exact (List.mem_filter.mp hother).2
  · exact fun hhas => ⟨flag, List.mem_filter.mpr ⟨flag.mem_all, hhas⟩, rfl⟩

theorem nodup_letters (flags : Flags) : flags.letters.toList.Nodup := by
  have halphabet : (Flag.all.map Flag.letter).Nodup := by decide
  rw [toList_letters]
  exact halphabet.sublist (List.filter_sublist.map _)

/-- A text is read if all its letters are those of flags, no letter stands twice, and `u` and `v`
    do not stand together. -/
theorem isSome_parse?_iff {letters : String} :
    (parse? letters).isSome = true ↔
      (∀ c ∈ letters.toList, c ∈ Flag.alphabet) ∧ letters.toList.Nodup ∧
        ¬ ('u' ∈ letters.toList ∧ 'v' ∈ letters.toList) := by
  have hread : (read {} letters.toList).isSome = true ↔ _ := isSome_read_iff
  simp only [awaits_empty] at hread
  rw [← and_assoc, ← hread]
  cases hflags : read {} letters.toList with
  | none => simp [parse?, hflags]
  | some flags =>
    have hnone (flag : Flag) : ({} : Flags).has flag = false := by cases flag <;> rfl
    have hhas (flag : Flag) : flags.has flag = true ↔ flag.letter ∈ letters.toList := by
      simpa [hnone] using has_of_read hflags flag
    have hparse : parse? letters =
        if flags.unicode && flags.unicodeSets then none else some flags := by
      simp [parse?, hflags]
    have hboth : (flags.unicode && flags.unicodeSets) = true ↔
        'u' ∈ letters.toList ∧ 'v' ∈ letters.toList := by
      rw [Bool.and_eq_true]
      exact and_congr (hhas .unicode) (hhas .unicodeSets)
    rw [hparse, ← hboth]
    split <;> simp_all

/-- The letters of those flags that a set has are those that stand in the text it is read from. -/
theorem map_letter_filter_has {letters : String} (hparse : parse? letters = some flags)
    (chosen : List Flag) :
    (chosen.filter flags.has).map Flag.letter =
      (chosen.map Flag.letter).filter (· ∈ letters.toList) := by
  have hsame (flag : Flag) : flags.has flag = decide (flag.letter ∈ letters.toList) :=
    Bool.eq_iff_iff.mpr ((has_iff_of_parse? hparse flag).trans decide_eq_true_iff.symm)
  rw [List.filter_map, List.filter_congr fun flag _ => hsame flag]
  rfl

theorem toList_letters_of_parse? {letters : String} (hparse : parse? letters = some flags) :
    flags.letters.toList = Flag.alphabet.filter (· ∈ letters.toList) :=
  (toList_letters flags).trans (map_letter_filter_has hparse Flag.all)

theorem letters_perm_of_parse? {letters : String} (hparse : parse? letters = some flags) :
    flags.letters.toList.Perm letters.toList := by
  obtain ⟨halphabet, hnodup, _⟩ := isSome_parse?_iff.mp (Option.isSome_of_eq_some hparse)
  refine (List.perm_ext_iff_of_nodup flags.nodup_letters hnodup).mpr fun c => ?_
  rw [toList_letters_of_parse? hparse, List.mem_filter, decide_eq_true_eq]
  exact and_iff_right_of_imp (halphabet c)

/-- A set is read back from the letters by which it is shown. -/
theorem parse?_letters {letters : String} (hparse : parse? letters = some flags) :
    parse? flags.letters = some flags := by
  have hperm := letters_perm_of_parse? hparse
  have hread : (parse? flags.letters).isSome = true := by
    rw [isSome_parse?_iff]
    simpa only [hperm.mem_iff, hperm.nodup_iff] using
      isSome_parse?_iff.mp (Option.isSome_of_eq_some hparse)
  obtain ⟨again, hagain⟩ := Option.isSome_iff_exists.mp hread
  rw [hagain]
  refine congrArg some (eq_of_has_iff fun flag => ?_)
  rw [has_iff_of_parse? hagain, mem_letters]

/-- Texts are read as the same set exactly when one is the other in another order. -/
theorem eq_iff_perm_of_parse? {letters other : String} (hparse : parse? letters = some flags)
    (hother : parse? other = some others) :
    flags = others ↔ letters.toList.Perm other.toList := by
  constructor
  · rintro rfl
    exact (letters_perm_of_parse? hparse).symm.trans (letters_perm_of_parse? hother)
  · intro hperm
    refine eq_of_has_iff fun flag => ?_
    rw [has_iff_of_parse? hparse, has_iff_of_parse? hother, hperm.mem_iff]

/-- The inline group of a set that is read holds the letters of the text that bear on matching. -/
theorem inlineGroup_of_parse? {letters : String} (hparse : parse? letters = some flags) :
    flags.inlineGroup =
      if ['i', 'm', 's'].filter (· ∈ letters.toList) = [] then ""
      else "(?" ++ String.ofList (['i', 'm', 's'].filter (· ∈ letters.toList)) ++ ")" := by
  have hmatching : (matching.filter flags.has).map Flag.letter =
      ['i', 'm', 's'].filter (· ∈ letters.toList) := map_letter_filter_has hparse matching
  rw [← hmatching, inlineGroup]
  cases matching.filter flags.has <;> rfl

/-- Flags are read from the texts whose letters are letters of flags, none of them twice, and not
    `u` together with `v`; any other text is the cause of a rejection. What is read is the set of
    the letters. It is shown by them in a fixed order and read back from that, it is the same for
    another text exactly when that has the same letters, and its inline group holds those of `i`,
    `m` and `s`. -/
theorem parse?_language (letters : String) :
    ((parse? letters).isSome = true ↔
      (∀ c ∈ letters.toList, c ∈ Flag.alphabet) ∧ letters.toList.Nodup ∧
        ¬ ('u' ∈ letters.toList ∧ 'v' ∈ letters.toList)) ∧
    (parse? letters = none →
      ∀ source, Pattern.compile source letters = .error (.flags letters)) ∧
    ∀ flags, parse? letters = some flags →
      (∀ flag, flags.has flag = true ↔ flag.letter ∈ letters.toList) ∧
      flags.letters.toList = Flag.alphabet.filter (· ∈ letters.toList) ∧
      flags.letters.toList.Perm letters.toList ∧
      parse? flags.letters = some flags ∧
      (∀ other others, parse? other = some others →
        (flags = others ↔ letters.toList.Perm other.toList)) ∧
      flags.inlineGroup =
        if ['i', 'm', 's'].filter (· ∈ letters.toList) = [] then ""
        else "(?" ++ String.ofList (['i', 'm', 's'].filter (· ∈ letters.toList)) ++ ")" := by
  refine ⟨isSome_parse?_iff, Pattern.compile_of_parse?_eq_none, fun flags hparse => ?_⟩
  exact ⟨has_iff_of_parse? hparse, toList_letters_of_parse? hparse,
    letters_perm_of_parse? hparse, parse?_letters hparse,
    fun _ _ hother => eq_iff_perm_of_parse? hparse hother, inlineGroup_of_parse? hparse⟩

/-- Letters in another order than the one in which they are shown, and an inline group. -/
theorem parse?_language_of_unordered :
    ∃ flags, parse? "ysmg" = some flags ∧ flags.letters = "gmsy" ∧ parse? "gmsy" = some flags ∧
      flags.inlineGroup = "(?ms)" := by
  obtain ⟨hread, _, hflags⟩ := parse?_language "ysmg"
  have hsome : (parse? "ysmg").isSome = true :=
    hread.mpr ⟨by simp [Flag.alphabet], by decide, by decide⟩
  obtain ⟨flags, hparse⟩ := Option.isSome_iff_exists.mp hsome
  obtain ⟨_, hletters, _, hagain, _, hgroup⟩ := hflags flags hparse
  have hshown : flags.letters = "gmsy" := String.toList_inj.mp (hletters.trans (by decide))
  rw [hshown] at hagain
  have hmatching : ['i', 'm', 's'].filter (· ∈ "ysmg".toList) = ['m', 's'] := by decide
  rw [hmatching] at hgroup
  exact ⟨flags, hparse, hshown, hagain, hgroup⟩

end Flags

end Patternwork
