import Patternwork.Key
import Patternwork.Proofs.Settings.History

namespace Patternwork.Settings

variable {a b : Settings} {history : List (String × Setting)}

theorem get?_of_mem {record : Settings} {entry : String × Setting}
    (hentry : entry ∈ record.entries) : record.get? entry.1 = some entry.2 :=
  (lookup_eq_some_iff_mem record.nodup).mpr hentry

/-- The entries are the names, each with what is found under it. -/
theorem entries_eq_filterMap (record : Settings) :
    record.entries = record.names.filterMap fun name => (record.get? name).map (name, ·) := by
  have hown : ∀ entry ∈ record.entries,
      (record.get? entry.1).map (entry.1, ·) = some entry := by
    intro entry hentry
    rw [get?_of_mem hentry]
    rfl
  rw [names, List.filterMap_map]
  exact ((List.filterMap_congr hown).trans List.filterMap_some).symm

theorem eq_of_names_eq (hnames : a.names = b.names)
    (hget : ∀ name, a.get? name = b.get? name) : a = b := by
  have hentries : a.entries = b.entries := by
    rw [entries_eq_filterMap a, entries_eq_filterMap b, hnames]
    simp only [hget]
  cases a
  cases b
  cases hentries
  rfl

/-- Records with the same history are equal, entry by entry. -/
theorem Holds.eq (ha : Holds a history) (hb : Holds b history) : a = b := by
  apply eq_of_names_eq
  · rw [ha.names_eq, hb.names_eq]
  · intro name
    rw [ha.get?_eq, hb.get?_eq]

/-- The entries of a record are a history of it. -/
theorem Holds.entries (record : Settings) : Holds record record.entries := by
  have hholds := Holds.ofList record.entries
  rwa [ofList_entries] at hholds

theorem get?_merge_some (a b : Settings) (name : String) :
    (a.merge (some b)).get? name = (b.get? name).or (a.get? name) :=
  get?_setAll b.entries b.nodup a name

theorem names_merge (a b : Settings) :
    (a.merge (some b)).names = a.names ++ b.names.filter fun name => !a.contains name := by
  have hcontains (name : String) : a.names.elem name = a.contains name := by
    rw [Bool.eq_iff_iff, List.elem_iff, contains_iff_mem_names]
  have hkept : a.names.Nodup := a.nodup
  have hadded : (b.names.removeAll a.names).Nodup := List.Nodup.filter _ b.nodup
  calc (a.setAll b.entries).names
    _ = (a.names ++ b.names).eraseDups := names_setAll b.entries a
    _ = a.names.eraseDups ++ (b.names.removeAll a.names).eraseDups := List.eraseDups_append
    _ = a.names ++ b.names.removeAll a.names := by
      rw [eraseDups_eq_self hkept, eraseDups_eq_self hadded]
    _ = _ := by simp only [List.removeAll, hcontains]

/-- Merging keeps the entries of the first record in place, each with the value of the second
    one where that has the name, and adds the others of the second one in their order. -/
theorem entries_merge (a b : Settings) :
    (a.merge (some b)).entries =
      (a.entries.map fun entry => (entry.1, (b.get? entry.1).getD entry.2)) ++
        b.entries.filter fun entry => !a.contains entry.1 := by
  have hkept : ∀ entry ∈ a.entries,
      ((b.get? entry.1).or (a.get? entry.1)).map (entry.1, ·) =
        some (entry.1, (b.get? entry.1).getD entry.2) := by
    intro entry hentry
    rw [get?_of_mem hentry]
    cases b.get? entry.1 <;> rfl
  have hadded : ∀ entry ∈ b.entries.filter fun entry => !a.contains entry.1,
      ((b.get? entry.1).or (a.get? entry.1)).map (entry.1, ·) = some entry := by
    intro entry hentry
    rw [get?_of_mem (List.mem_filter.mp hentry).1]
    rfl
  rw [entries_eq_filterMap, names_merge, List.filterMap_append]
  simp only [get?_merge_some]
  congr 1
  · rw [names, List.filterMap_map, ← List.filterMap_eq_map]
    exact List.filterMap_congr hkept
  · rw [names, List.filter_map, List.filterMap_map]
    exact (List.filterMap_congr hadded).trans List.filterMap_some

/-- Merging twice is one history, however it is bracketed. -/
theorem merge_assoc (a b c : Settings) :
    (a.merge (some b)).merge (some c) = a.merge (some (b.merge (some c))) := by
  have hleft := ((Holds.entries a).merge (Holds.entries b)).merge (Holds.entries c)
  have hright := (Holds.entries a).merge ((Holds.entries b).merge (Holds.entries c))
  rw [List.append_assoc] at hleft
  exact hleft.eq hright

theorem merge_self (a : Settings) : a.merge (some a) = a := by
  apply eq_of_names_eq
  · have hnone : (a.names.filter fun name => !a.contains name) = [] := by
      rw [List.filter_eq_nil_iff]
      intro name hname
      simp [(contains_iff_mem_names a name).mpr hname]
    rw [names_merge, hnone, List.append_nil]
  · intro name
    rw [get?_merge_some, Option.or_self]

/-- The copy that everything starts from is the record itself, or empty if there is none. -/
theorem merge_of_empty (given : Option Settings) : empty.merge given = given.getD empty := by
  cases given with
  | none => rfl
  | some given => exact ofList_entries given

/-- Merging is associative up to the order of the entries and hence to the keys, no record and
    the empty record change nothing, and merging a record again changes nothing either. The
    merged record has the entries of the first one in their places, with the values of the
    second one, and then the other entries of the second one in their order. -/
theorem merge_ordered_monoid (a b c : Settings) :
    (a.merge (some b)).merge (some c) = a.merge (some (b.merge (some c))) ∧
    (∀ pattern, Key.derive pattern (some ((a.merge (some b)).merge (some c))) =
      Key.derive pattern (some (a.merge (some (b.merge (some c)))))) ∧
    (∀ given : Option Settings, empty.merge given = given.getD empty) ∧
    a.merge none = a ∧ a.merge (some empty) = a ∧
    a.merge (some a) = a ∧ (a.merge (some b)).merge (some b) = a.merge (some b) ∧
    (a.merge (some b)).entries =
      (a.entries.map fun entry => (entry.1, (b.get? entry.1).getD entry.2)) ++
        b.entries.filter fun entry => !a.contains entry.1 := by
  have hassoc := merge_assoc a b c
  have hagain : (a.merge (some b)).merge (some b) = a.merge (some b) := by
    rw [merge_assoc, merge_self]
  refine ⟨hassoc, fun pattern => ?_, merge_of_empty, rfl, rfl, merge_self a, hagain,
    entries_merge a b⟩
  rw [hassoc]

/-- Two records that overlap, and a third one that overlaps with both. -/
example :
    let a := ofList [("x", .int 1), ("flags", .text "i")]
    let b := ofList [("y", .int 2), ("x", .bool true)]
    let c := ofList [("flags", .text ""), ("z", .int 3)]
    ((a.merge (some b)).merge (some c)).entries =
      [("x", .bool true), ("flags", .text ""), ("y", .int 2), ("z", .int 3)] := by
  decide

end Patternwork.Settings
