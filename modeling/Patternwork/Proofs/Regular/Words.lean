import Patternwork.Proofs.Regular.Reach

namespace Patternwork.Regular

open Positions

variable {text : Haystack} {a b : Regular} {as bs : List Regular} {starts : List Nat} {p q : Nat}

theorem mem_reach_iff (hstarts : Descending starts) :
    q ∈ a.reach text starts ↔ ∃ p ∈ starts, q ∈ a.reach text [p] :=
  (additive_reach text a).mem_iff hstarts

theorem reach_seqs_cons (text : Haystack) (a : Regular) (as : List Regular) (starts : List Nat) :
    (seqs (a :: as)).reach text starts = (seqs as).reach text (a.reach text starts) := by
  cases as <;> rfl

/-- A sequence goes on from where its first parts end. -/
theorem reach_seqs_append (text : Haystack) (as bs : List Regular) (starts : List Nat) :
    (seqs (as ++ bs)).reach text starts =
      (seqs bs).reach text ((seqs as).reach text starts) := by
  induction as generalizing starts with
  | nil => rfl
  | cons a as ih => rw [List.cons_append, reach_seqs_cons, ih, reach_seqs_cons _ a as]

theorem mem_reach_seqs_append :
    q ∈ (seqs (as ++ bs)).reach text [p] ↔
      ∃ r ∈ (seqs as).reach text [p], q ∈ (seqs bs).reach text [r] := by
  rw [reach_seqs_append]
  exact mem_reach_iff ((additive_reach text _).descending (descending_singleton p))

/-- Alternatives reach what one of them reaches. -/
theorem mem_reach_alts (has : as ≠ []) :
    q ∈ (alts as).reach text starts ↔ ∃ a ∈ as, q ∈ a.reach text starts := by
  induction as with
  | nil => exact absurd rfl has
  | cons a as ih =>
    cases as with
    | nil => simp [alts]
    | cons b as =>
      rw [alts, reach, mem_union, ih (List.cons_ne_nil b as)]
      simp only [List.exists_mem_cons_iff]
      exact List.cons_ne_nil b as

/-- A last alternative that reaches nothing adds nothing. -/
theorem reach_alts_concat {last : Regular} (has : as ≠ [])
    (hlast : ∀ starts, last.reach text starts = []) (starts : List Nat) :
    (alts (as ++ [last])).reach text starts = (alts as).reach text starts := by
  have hunion (reached : List Nat) : union reached [] = reached := by
    cases reached <;> rfl
  induction as with
  | nil => exact absurd rfl has
  | cons a as ih =>
    cases as with
    | nil =>
      change union (a.reach text starts) (last.reach text starts) = a.reach text starts
      rw [hlast, hunion]
    | cons b as =>
      change union (a.reach text starts) ((alts (b :: as ++ [last])).reach text starts) = _
      rw [ih (List.cons_ne_nil b as)]
      rfl

/-- The characters of a text, one after another. -/
def word (item : List Char) : Regular := seqs (item.map fun c => .set (.single c))

theorem contains_single {c d : Char} : (CharClass.single c).contains d = true ↔ d = c := by
  simp only [CharClass.contains, CharClass.single, CharClass.holds, Bool.and_eq_true,
    decide_eq_true_eq]
  rw [← Char.toNat_inj]
  omega

theorem mem_reach_single {c : Char} :
    q ∈ (Regular.set (.single c)).reach text [p] ↔ text[p]? = some c ∧ q = p + 1 := by
  cases hget : text[p]? with
  | none => simp [reach, hget]
  | some d =>
    by_cases hmember : d = c
    · subst hmember
      rw [reach, List.filterMap_cons, hget, Option.bind_some, if_pos (contains_single.mpr rfl)]
      simp
    · have hnot : (CharClass.single c).contains d = false :=
        Bool.eq_false_iff.mpr (mt contains_single.mp hmember)
      simp [reach, hget, hnot, hmember]

/-- A word ends after its characters, where these stand. -/
theorem mem_reach_word {item : List Char} :
    q ∈ (word item).reach text [p] ↔ item <+: text.toList.drop p ∧ q = p + item.length := by
  induction item generalizing p with
  | nil => simp [word, seqs, reach]
  | cons c item ih =>
    have hfirst : text[p]? = some c ↔ text.toList.drop p = c :: text.toList.drop (p + 1) := by
      rw [← Array.getElem?_toList, List.getElem?_eq_some_iff]
      constructor
      · rintro ⟨hlt, rfl⟩
        exact List.drop_eq_getElem_cons hlt
      · intro hdrop
        have hlt : p < text.toList.length := by
          by_contra hle
          simp [List.drop_eq_nil_of_le (Nat.not_lt.mp hle)] at hdrop
        rw [List.drop_eq_getElem_cons hlt] at hdrop
        exact ⟨hlt, (List.cons.inj hdrop).1⟩
    have hbegins : c :: item <+: text.toList.drop p ↔
        text[p]? = some c ∧ item <+: text.toList.drop (p + 1) := by
      rw [hfirst]
      constructor
      · rintro ⟨after, hafter⟩
        have htail : text.toList.drop (p + 1) = item ++ after := by
          rw [← List.tail_drop, ← hafter, List.cons_append, List.tail_cons]
        exact ⟨by rw [htail, ← hafter, List.cons_append], after, htail.symm⟩
      · rintro ⟨hdrop, hitem⟩
        rw [hdrop]
        exact (List.prefix_cons_inj c).mpr hitem
    rw [word, List.map_cons, ← List.singleton_append, mem_reach_seqs_append]
    simp only [seqs, mem_reach_single]
    rw [hbegins, List.length_cons]
    constructor
    · rintro ⟨_, ⟨hget, rfl⟩, hrest⟩
      obtain ⟨hitem, rfl⟩ := ih.mp hrest
      exact ⟨⟨hget, hitem⟩, by omega⟩
    · rintro ⟨⟨hget, hitem⟩, rfl⟩
      exact ⟨p + 1, ⟨hget, rfl⟩, ih.mpr ⟨hitem, by omega⟩⟩

/-- One of some words. -/
def words (items : List (List Char)) : Regular := alts (items.map word)

theorem mem_reach_words {items : List (List Char)} (hitems : items ≠ []) :
    q ∈ (words items).reach text [p] ↔
      ∃ item ∈ items, item <+: text.toList.drop p ∧ q = p + item.length := by
  rw [words, mem_reach_alts (by simpa using hitems)]
  simp only [List.mem_map, exists_exists_and_eq_and, mem_reach_word]

/-- A condition as a sequence, if it is called for. -/
def anchor (called : Bool) (condition : Look) : List Regular :=
  if called then [.look condition] else []

theorem mem_reach_anchor {called : Bool} {condition : Look} :
    q ∈ (seqs (anchor called condition)).reach text [p] ↔
      q = p ∧ (called = true → condition.holds text p = true) := by
  cases called with
  | false => simp [anchor, seqs, reach]
  | true =>
    cases hholds : condition.holds text p <;> simp [anchor, seqs, reach, hholds]

/-- Words between anchors match where one of them stands between the ends that are anchored. -/
theorem isMatch_words_iff {items : List (List Char)} (hitems : items ≠ []) (start stop : Bool) :
    (seqs (anchor start .textStart ++ (words items :: anchor stop .textEnd))).isMatch text = true ↔
      ∃ item ∈ items, ∃ before after, before ++ item ++ after = text.toList ∧
        (start = true → before = []) ∧ (stop = true → after = []) := by
  have hreach {p q : Nat} :
      q ∈ (seqs (anchor start .textStart ++ (words items :: anchor stop .textEnd))).reach text [p] ↔
        (start = true → p = 0) ∧ ∃ item ∈ items, item <+: text.toList.drop p ∧
          q = p + item.length ∧ (stop = true → q = text.size) := by
    rw [← List.singleton_append (l := anchor stop .textEnd), mem_reach_seqs_append]
    simp only [mem_reach_seqs_append, mem_reach_anchor, seqs, mem_reach_words hitems, Look.holds,
      beq_iff_eq]
    constructor
    · rintro ⟨_, ⟨rfl, hstart⟩, _, ⟨item, hitem, hbegins, rfl⟩, rfl, hstop⟩
      exact ⟨hstart, item, hitem, hbegins, rfl, hstop⟩
    · rintro ⟨hstart, item, hitem, hbegins, rfl, hstop⟩
      exact ⟨p, ⟨rfl, hstart⟩, _, ⟨item, hitem, hbegins, rfl⟩, rfl, hstop⟩
  have hsize : text.size = text.toList.length := rfl
  rw [isMatch_iff]
  constructor
  · rintro ⟨p, hp, hreached⟩
    obtain ⟨q, hq⟩ := List.exists_mem_of_ne_nil _ hreached
    obtain ⟨hstart, item, hitem, ⟨after, hafter⟩, rfl, hstop⟩ := hreach.mp hq
    refine ⟨item, hitem, text.toList.take p, after, ?_, ?_, ?_⟩
    · rw [List.append_assoc, hafter, List.take_append_drop]
    · intro hcalled
      rw [hstart hcalled, List.take_zero]
    · intro hcalled
      have hlength := congrArg List.length hafter
      rw [List.length_append, List.length_drop] at hlength
      have hend := hstop hcalled
      exact List.length_eq_zero_iff.mp (by omega)
  · rintro ⟨item, hitem, before, after, heq, hstart, hstop⟩
    have hlength := congrArg List.length heq
    simp only [List.length_append] at hlength
    refine ⟨before.length, by omega, List.ne_nil_of_mem (a := before.length + item.length) ?_⟩
    refine hreach.mpr ⟨fun hcalled => by rw [hstart hcalled]; rfl, item, hitem, ⟨after, ?_⟩, rfl,
      fun hcalled => ?_⟩
    · rw [← heq, List.append_assoc, List.drop_left]
    · rw [hstop hcalled, List.length_nil] at hlength
      omega

end Patternwork.Regular
