import Patternwork.Proofs.Compilation
import Patternwork.Proofs.Key
import Patternwork.Proofs.Store.Call

namespace Patternwork

/-- `shared` may stand under `key` because `text` compiles to `pattern` under `given`. -/
structure Origin (key : String) (shared : Shared) (text : String) (given : Option Settings)
    (pattern : Pattern) : Prop where
  allows : Settings.allowsStoring given = true
  derives : Key.derive text given = key
  compiles : compileText text given = .ok (some pattern)
  annotated : shared.pattern = Store.annotate pattern key (Settings.resolve given).settings
  owned : shared.identity ≠ 0

namespace Origin

variable {key text : String} {shared : Shared} {given : Option Settings} {pattern : Pattern}

theorem metadata_eq (horigin : Origin key shared text given pattern) :
    shared.pattern.metadata =
      some
        { stored := true
          pattern := shared.pattern.source
          settings := (Settings.resolve given).settings
          key } := by
  rw [horigin.annotated]
  rfl

theorem source_eq (horigin : Origin key shared text given pattern) :
    shared.pattern.source = (Settings.resolve given).assembled text := by
  obtain ⟨hsource, _, _⟩ := of_compileText_eq_ok horigin.compiles
  rw [horigin.annotated]
  exact hsource

theorem parse?_eq (horigin : Origin key shared text given pattern) :
    Flags.parse? (Settings.resolve given).flags = some shared.pattern.flags := by
  obtain ⟨_, hflags, _⟩ := of_compileText_eq_ok horigin.compiles
  rw [horigin.annotated]
  exact hflags

/-- Every text and options with the same key compile to the same pattern. -/
theorem compileText_eq (horigin : Origin key shared text given pattern) {other : String}
    {options : Option Settings} (hkey : Key.derive other options = key) :
    compileText other options = .ok (some pattern) := by
  obtain ⟨rfl, halike⟩ := (Key.derive_eq_iff_alikeGiven _ _ _ _).mp
    (hkey.trans horigin.derives.symm)
  exact (halike.compileText_iff other (some pattern)).mpr horigin.compiles

end Origin

namespace Store

theorem find?_insert_self {store : Store} {key : String} (habsent : store.find? key = none)
    (shared : Shared) : (store.insert key shared).find? key = some shared := by
  unfold find? at habsent
  unfold find? insert
  rw [List.lookup_append, habsent, Option.none_or, List.lookup_cons_self]

theorem find?_insert_of_ne {store : Store} {key other : String} (hne : other ≠ key)
    (shared : Shared) : (store.insert key shared).find? other = store.find? other := by
  unfold find? insert
  rw [List.lookup_append, List.lookup_cons, beq_false_of_ne hne]
  exact Option.or_none

theorem mem_of_find? {store : Store} {key : String} {shared : Shared}
    (hfound : store.find? key = some shared) : (key, shared) ∈ store.entries := by
  obtain ⟨before, after, hentries, _⟩ := List.lookup_eq_some_iff.mp hfound
  rw [hentries]
  simp

theorem find?_eq_none_iff {store : Store} {key : String} :
    store.find? key = none ↔ ∀ entry ∈ store.entries, entry.1 ≠ key := by
  rw [find?, List.lookup_eq_none_iff]
  exact forall₂_congr fun _ _ => bne_iff_ne.trans ne_comm

/-- What is found in a store is found in every store that continues it. -/
theorem find?_of_extended {store later : Store} (hcontinues : store.entries <+: later.entries)
    {key : String} {shared : Shared} (hfound : store.find? key = some shared) :
    later.find? key = some shared := by
  obtain ⟨added, hadded⟩ := hcontinues
  unfold find? at hfound ⊢
  rw [← hadded, List.lookup_append, hfound]
  rfl

/-- A store in which every key stands once and every entry has an origin. -/
structure Valid (store : Store) : Prop where
  nodup : (store.entries.map Prod.fst).Nodup
  origin : ∀ entry ∈ store.entries, ∃ text given pattern,
    Origin entry.1 entry.2 text given pattern

namespace Valid

theorem empty : Valid {} := ⟨List.nodup_nil, by simp⟩

theorem find?_eq_some_iff {store : Store} (hvalid : store.Valid) {key : String}
    {shared : Shared} : store.find? key = some shared ↔ (key, shared) ∈ store.entries :=
  lookup_eq_some_iff_mem hvalid.nodup

/-- A valid store stays valid when a pattern with an origin is added under an absent key. -/
theorem insert {store : Store} (hvalid : store.Valid) {key text : String} {shared : Shared}
    {given : Option Settings} {pattern : Pattern} (habsent : store.find? key = none)
    (horigin : Origin key shared text given pattern) : (store.insert key shared).Valid := by
  have hkeys : ((store.insert key shared).entries.map Prod.fst) =
      store.entries.map Prod.fst ++ [key] := by
    simp [Store.insert]
  constructor
  · rw [hkeys, List.nodup_append]
    refine ⟨hvalid.nodup, List.nodup_singleton key, ?_⟩
    intro held hheld other hother
    obtain ⟨entry, hentry, rfl⟩ := List.mem_map.mp hheld
    rw [List.mem_singleton.mp hother]
    exact find?_eq_none_iff.mp habsent entry hentry
  · intro entry hentry
    rcases List.mem_append.mp hentry with hentry | hentry
    · exact hvalid.origin entry hentry
    · rw [List.mem_singleton.mp hentry]
      exact ⟨text, given, pattern, horigin⟩

end Valid

/-- A pattern that is stored under the key of a text and options has them as its origin. -/
theorem origin_of_stored {text : String} {given : Option Settings} {pattern : Pattern}
    {supply : Supply} (hallows : Settings.allowsStoring given = true)
    (hcompile : compileText text given = .ok (some pattern)) (hsupply : 0 < supply.next) :
    Origin (Key.derive text given)
      ⟨supply.next, annotate pattern (Key.derive text given) (Settings.resolve given).settings⟩
      text given pattern :=
  ⟨hallows, rfl, hcompile, rfl, by simpa using Nat.ne_of_gt hsupply⟩

end Store

end Patternwork
