import Patternwork.Proofs.Notation.Literal

namespace Patternwork

theorem Item.branches_concat (wrap : Bool) {items : List (List Char)} (last : List Char)
    (hitems : items ≠ []) :
    branches wrap (items ++ [last]) = branches wrap items ++ '|' :: branch wrap last := by
  induction items with
  | nil => exact absurd rfl hitems
  | cons item more ih =>
    cases more with
    | nil => rfl
    | cons next more =>
      change branch wrap item ++ '|' :: branches wrap (next :: more ++ [last]) = _
      rw [ih (List.cons_ne_nil next more)]
      simp [branches]

/-- A notation as far as alternatives go: it is read round by round, in states that keep the modes
    and the open groups. -/
structure Reader (State Group : Type) where
  read : Nat → State → List Char → Option State
  modes : State → Modes
  groups : State → List Group
  /-- The state after a bar. -/
  next : State → State
  modes_next : ∀ state, modes (next state) = modes state
  groups_next : ∀ state, groups (next state) = groups state
  leads_bar : ∀ state rest, Leads read state ('|' :: rest) (next state) rest
  /-- More rounds than enough make no difference. -/
  read_add : ∀ {fuel state input whole}, read fuel state input = some whole →
    ∀ more, read (fuel + more) state input = some whole

namespace Reader

variable {State Group : Type} {reader : Reader State Group} {state next whole : State}
  {modes : Modes} {text rest : List Char} {fuel : Nat}

theorem read_of_leads (hleads : Leads reader.read state text next rest)
    (hread : reader.read fuel state text = some whole) :
    reader.read fuel next rest = some whole := by
  obtain ⟨rounds, _, hrounds⟩ := hleads
  rw [← hrounds fuel]
  exact reader.read_add hread rounds

/-- A text that goes on with another branch, or with the end of the group. -/
def EndsBranch (rest : List Char) : Prop := rest.head? = some '|' ∨ rest.head? = some ')'

/-- A text that is read whole in a group of alternatives under some modes. What comes after it
    makes no difference, unless the text cannot be read at all. -/
def SelfContained (reader : Reader State Group) (modes : Modes) (text : List Char) : Prop :=
  ∀ state, reader.modes state = modes → (reader.groups state).length = 1 →
    ∃ last, reader.modes last = modes ∧ reader.groups last = reader.groups state ∧
      ∀ rest, EndsBranch rest → ∀ fuel whole, reader.read fuel state (text ++ rest) = some whole →
        Leads reader.read state (text ++ rest) last rest

/-- Alternatives are self-contained if each of them is. -/
theorem SelfContained.branches {wrap : Bool} {items : List (List Char)} (hitems : items ≠ [])
    (hself : ∀ item ∈ items, reader.SelfContained modes (Item.branch wrap item)) :
    reader.SelfContained modes (Item.branches wrap items) := by
  induction items with
  | nil => exact absurd rfl hitems
  | cons item more ih =>
    obtain ⟨hitem, hmore⟩ := List.forall_mem_cons.mp hself
    cases more with
    | nil => exact hitem
    | cons other more =>
      intro state hmodes hgroups
      obtain ⟨first, hfirstModes, hfirstGroups, hfirst⟩ := hitem state hmodes hgroups
      obtain ⟨last, hlastModes, hlastGroups, hlast⟩ :=
        ih (List.cons_ne_nil other more) hmore (reader.next first)
          ((reader.modes_next first).trans hfirstModes)
          (by rw [reader.groups_next, hfirstGroups, hgroups])
      refine ⟨last, hlastModes, ?_, fun rest hrest fuel whole hread => ?_⟩
      · rw [hlastGroups, reader.groups_next, hfirstGroups]
      · have htext : Item.branches wrap (item :: other :: more) ++ rest =
            Item.branch wrap item ++ '|' :: (Item.branches wrap (other :: more) ++ rest) := by
          simp [Item.branches]
        rw [htext] at hread ⊢
        have hbar := (hfirst _ (.inl rfl) fuel whole hread).trans (reader.leads_bar first _)
        exact hbar.trans (hlast rest hrest fuel whole (reader.read_of_leads hbar hread))

end Reader

end Patternwork
