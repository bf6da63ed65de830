import Mathlib.Data.List.Forall2
import Mathlib.Data.List.Nodup
import Mathlib.Data.List.Perm.Basic
import Patternwork.Proofs.Settings.Alike

namespace Patternwork

/-- No value of the record is NaN. -/
def Settings.NaNFree (settings : Settings) : Prop :=
  ∀ entry ∈ settings.entries, ∀ x, entry.2 = .float x → x.isNaN = false

namespace Key

private theorem append_separator_inj {α : Type} {xs ys rest more : List α} {separator : α}
    (hxs : separator ∉ xs) (hys : separator ∉ ys)
    (h : xs ++ separator :: rest = ys ++ separator :: more) : xs = ys ∧ rest = more := by
  induction xs generalizing ys with
  | nil =>
    cases ys with
    | nil => exact ⟨rfl, (List.cons.inj h).2⟩
    | cons y ys => exact absurd (by simp [(List.cons.inj h).1]) hys
  | cons x xs ih =>
    cases ys with
    | nil => exact absurd (by simp [(List.cons.inj h).1]) hxs
    | cons y ys =>
      obtain ⟨rfl, htail⟩ := List.cons.inj h
      obtain ⟨rfl, hrest⟩ := ih (List.not_mem_of_not_mem_cons hxs)
        (List.not_mem_of_not_mem_cons hys) htail
      exact ⟨rfl, hrest⟩

/-- A piece ends where its length says, whatever comes after it. -/
theorem piece_append_inj {s t rest more : String}
    (h : piece s ++ rest = piece t ++ more) : s = t ∧ rest = more := by
  have hlist : ∀ text tail : String, (piece text ++ tail).toList =
      Nat.toDigits 10 text.utf8ByteSize ++ ':' :: (text ++ tail).toList := by
    intro text tail
    simp [piece]
  have hcolon (n : Nat) : ':' ∉ Nat.toDigits 10 n := Decimal.not_mem_toDigits (by decide)
  have hchars := congrArg String.toList h
  rw [hlist, hlist] at hchars
  obtain ⟨hdigits, hafter⟩ := append_separator_inj (hcolon _) (hcolon _) hchars
  have hsize : s.utf8ByteSize = t.utf8ByteSize := by
    rw [← Nat.ofDigitChars_ten_toDigits (n := s.utf8ByteSize), hdigits,
      Nat.ofDigitChars_ten_toDigits]
  have happend : s ++ rest = t ++ more := String.toList_inj.mp hafter
  -- The length counts bytes, so the texts are cut apart as bytes and not as characters.
  have hbytes := congrArg String.toByteArray happend
  rw [String.toByteArray_append, String.toByteArray_append] at hbytes
  have heq : s = t := String.toByteArray_inj.mp (ByteArray.append_inj_left hbytes hsize)
  subst heq
  exact ⟨rfl, (String.append_right_inj s).mp happend⟩

/-- The name, the kind and the text of a value can be read off the start of the options. -/
theorem entry_append_inj {n m : String} {v w : Setting} {rest more : String}
    (h : entry n v ++ rest = entry m w ++ more) :
    n = m ∧ v.tag = w.tag ∧ v.display = w.display ∧ rest = more := by
  simp only [entry, String.append_assoc] at h
  obtain ⟨hname, h⟩ := piece_append_inj ((String.append_right_inj _).mp h)
  obtain ⟨htag, h⟩ := String.singleton_append_inj.mp ((String.append_right_inj _).mp h)
  obtain ⟨hdisplay, h⟩ := piece_append_inj h
  exact ⟨hname, htag, hdisplay, h⟩

private theorem entry_append_ne_empty (n : String) (v : Setting) (rest : String) :
    entry n v ++ rest ≠ "" := by
  intro h
  simp [entry, String.append_eq_empty_iff] at h

/-- Lists of options are spelled alike when they are alike entry by entry. -/
theorem entries_eq_iff (xs ys : List (String × Setting)) :
    entries xs = entries ys ↔ List.Forall₂ Settings.AlikeEntry xs ys := by
  constructor
  · intro h
    induction xs generalizing ys with
    | nil =>
      cases ys with
      | nil => exact .nil
      | cons y ys => exact absurd h.symm (entry_append_ne_empty _ _ _)
    | cons x xs ih =>
      cases ys with
      | nil => exact absurd h (entry_append_ne_empty _ _ _)
      | cons y ys =>
        obtain ⟨hname, htag, hdisplay, hrest⟩ := entry_append_inj h
        exact .cons ⟨hname, (Setting.alike_iff _ _).mpr ⟨htag, hdisplay⟩⟩ (ih ys hrest)
  · intro h
    induction h with
    | nil => rfl
    | @cons x y xs ys hentry _ ih =>
      obtain ⟨htag, hdisplay⟩ := (Setting.alike_iff _ _).mp hentry.2
      change entry x.1 x.2 ++ entries xs = entry y.1 y.2 ++ entries ys
      rw [ih, entry, entry, hentry.1, htag, hdisplay]

/-- Keys are equal when the texts are equal and the options alike. -/
theorem derive_eq_iff_alikeGiven (p q : String) (a b : Option Settings) :
    derive p a = derive q b ↔ p = q ∧ Settings.AlikeGiven a b := by
  have hgiven (text : String) (given : Option Settings) :
      derive text given = piece text ++ entries (given.getD .empty).entries := by
    cases given <;> rfl
  rw [hgiven, hgiven]
  constructor
  · intro h
    obtain ⟨htext, hentries⟩ := piece_append_inj h
    exact ⟨htext, (entries_eq_iff _ _).mp hentries⟩
  · rintro ⟨rfl, halike⟩
    rw [(entries_eq_iff _ _).mpr halike]

/-- Records with the same entries that list their names in the same order are equal. -/
private theorem eq_of_perm_of_alike {a b : Settings} (hperm : a.entries.Perm b.entries)
    (halike : a.Alike b) : a = b := by
  have hequal : List.Forall₂ Eq a.entries b.entries := by
    rw [List.forall₂_iff_zip]
    obtain ⟨hlength, hzip⟩ := List.forall₂_iff_zip.mp halike
    refine ⟨hlength, fun {x y} hpair => ?_⟩
    obtain ⟨hx, hy⟩ := List.of_mem_zip hpair
    exact List.inj_on_of_nodup_map a.nodup hx (hperm.mem_iff.mpr hy) (hzip hpair).1
  rw [List.forall₂_eq_eq_eq] at hequal
  cases a
  cases b
  simpa using hequal

private theorem alike_iff_same {a b : Settings} (ha : a.NaNFree) :
    a.Alike b ↔ a.same b = true := by
  have hvalue {x y : String × Setting} (hx : x ∈ a.entries) :
      Settings.AlikeEntry x y ↔ (x.1 == y.1 && x.2.same y.2) = true := by
    obtain ⟨n, v⟩ := x
    obtain ⟨m, w⟩ := y
    rw [Bool.and_eq_true, beq_iff_eq]
    apply and_congr_right
    intro _
    cases v with
    | float x =>
      have hnan : ¬ x.isNaN = true := ne_true_of_eq_false (ha _ hx x rfl)
      cases w with
      | float y => exact or_iff_left fun hboth => hnan hboth.1
      | bool _ => simp [Setting.Alike, Setting.same]
      | int _ => simp [Setting.Alike, Setting.same]
      | text _ => simp [Setting.Alike, Setting.same]
    | bool _ => cases w <;> simp [Setting.Alike, Setting.same]
    | int _ => cases w <;> simp [Setting.Alike, Setting.same]
    | text _ => cases w <;> simp [Setting.Alike, Setting.same]
  have hlength : a.size == b.size ↔ a.entries.length = b.entries.length := beq_iff_eq
  rw [Settings.Alike, List.forall₂_iff_zip, Settings.same, Bool.and_eq_true, hlength,
    List.all_eq_true]
  apply and_congr_right
  intro _
  constructor
  · intro h pair hpair
    exact (hvalue (List.of_mem_zip hpair).1).mp (h hpair)
  · intro h x y hpair
    exact (hvalue (List.of_mem_zip hpair).1).mpr (h (x, y) hpair)

/-- A key belongs to one text and to the options that are alike, position by position.
    Records with the same entries in a different order have different keys, and where no
    value is NaN, keys are equal exactly when the records are equal as values. -/
theorem derive_eq_derive_iff (p q : String) (a b : Option Settings) :
    (derive p a = derive q b ↔ p = q ∧ Settings.AlikeGiven a b) ∧
      ((a.getD .empty).entries.Perm (b.getD .empty).entries → a.getD .empty ≠ b.getD .empty →
        derive p a ≠ derive q b) ∧
      ((a.getD .empty).NaNFree → (b.getD .empty).NaNFree →
        (derive p a = derive q b ↔ p = q ∧ (a.getD .empty).same (b.getD .empty) = true)) := by
  have hkey := derive_eq_iff_alikeGiven p q a b
  refine ⟨hkey, ?_, ?_⟩
  · intro hperm hne heq
    exact hne (eq_of_perm_of_alike hperm (hkey.mp heq).2)
  · intro ha _
    rw [hkey, Settings.AlikeGiven, alike_iff_same ha]

/-- Two records that differ in their order only, with values that look like keys. -/
theorem derive_ne_of_reordered :
    derive "1:é" (some (.ofList [("é", .text "; 1:k=f1:0"), ("k", .float (-0.0))])) ≠
      derive "1:é" (some (.ofList [("k", .float (-0.0)), ("é", .text "; 1:k=f1:0")])) :=
  (derive_eq_derive_iff "1:é" "1:é" _ _).2.1 (List.Perm.swap _ _ _) (by decide)

end Key

end Patternwork
