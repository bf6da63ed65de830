import Mathlib.Logic.Function.Basic
import Mathlib.Logic.Relation
import Patternwork.Proofs.Store.Settled

namespace Patternwork

/-- A call that was answered. -/
structure Event where
  thread : Nat
  call : Call
  result : Except CompileError Shared
  /-- Whether an object was made for the call. -/
  made : Bool

/-- One cache, the calls that threads wait for, and the answered calls in the order in
    which they were answered. -/
structure Machine where
  store : Store := {}
  supply : Supply := {}
  pending : Nat → Option Call := fun _ => none
  history : List Event := []

namespace Machine

def respond (machine : Machine) (thread : Nat) (call : Call) : Machine :=
  let answer := call.answer machine.store machine.supply
  { store := answer.store
    supply := answer.supply
    pending := Function.update machine.pending thread none
    history := machine.history ++
      [{ thread, call, result := answer.result, made := answer.supply != machine.supply }] }

inductive Step (machine : Machine) : Machine → Prop
  /-- A thread without a call makes one. -/
  | issue (thread : Nat) (call : Call) (hidle : machine.pending thread = none) :
      Step machine { machine with pending := Function.update machine.pending thread (some call) }
  | respond (thread : Nat) (call : Call) (hpending : machine.pending thread = some call) :
      Step machine (machine.respond thread call)
  /-- Objects are made elsewhere. -/
  | elsewhere (supply : Supply) (hnext : machine.supply.next ≤ supply.next) :
      Step machine { machine with supply }

abbrev Reaches : Machine → Machine → Prop := Relation.ReflTransGen Step

end Machine

/-- Where `later` has the key of a call that returned a pattern, it returns the same
    pattern, and no object is made for it. -/
def Event.Settles (event later : Event) : Prop :=
  ∀ key shared, event.call.key? = some key → later.call.key? = some key →
    event.result = .ok shared → later.result = .ok shared ∧ later.made = false

/-- Two calls with one key that both returned a pattern returned the same object. -/
def Event.Agrees (event other : Event) : Prop :=
  ∀ key a b, event.call.key? = some key → other.call.key? = some key →
    event.result = .ok a → other.result = .ok b → a = b

namespace Machine

/-- The history records every object that was stored, and its answers agree with one another
    and with the store. -/
structure Valid (machine : Machine) : Prop where
  store : machine.store.Valid
  next_pos : 0 < machine.supply.next
  settled : ∀ event ∈ machine.history, ∀ key shared, event.call.key? = some key →
    event.result = .ok shared → machine.store.Settled key shared
  agreed : machine.history.Pairwise Event.Settles
  returned : ∀ event ∈ machine.history, ∀ key, event.call.key? = some key →
    event.made = true → ∃ shared, event.result = .ok shared
  recorded : ∀ key shared, machine.store.find? key = some shared →
    ∃ event ∈ machine.history, event.call.key? = some key ∧ event.result = .ok shared ∧
      event.made = true

theorem valid_start : Valid {} := by
  constructor
  case store => exact .empty
  case next_pos => decide
  case settled => simp
  case agreed => exact .nil
  case returned => simp
  case recorded =>
    intro key shared hfound
    cases hfound

theorem entries_extended_respond {machine : Machine} (hvalid : machine.Valid) (thread : Nat)
    (call : Call) :
    machine.store.entries <+: (machine.respond thread call).store.entries :=
  (call.answer_of machine.store hvalid.next_pos).entries_extended

/-- An entry after an answer was there before, or was made for the answered call. -/
private theorem find?_respond_cases {machine : Machine} {thread : Nat} {call : Call}
    {key : String} {shared : Shared}
    (hfound : (machine.respond thread call).store.find? key = some shared) :
    machine.store.find? key = some shared ∨
      call.key? = some key ∧ (call.answer machine.store machine.supply).result = .ok shared ∧
        (call.answer machine.store machine.supply).supply ≠ machine.supply := by
  change (call.answer machine.store machine.supply).store.find? key = some shared at hfound
  cases hkey : call.key? with
  | none =>
    rw [Call.store_of_no_key hkey] at hfound
    exact .inl hfound
  | some asked =>
    rcases Call.made_cases hkey machine.store machine.supply with
      ⟨_, hstore⟩ | ⟨made, habsent, hsupply, hresult, hstore⟩
    · rw [hstore] at hfound
      exact .inl hfound
    · by_cases hsame : key = asked
      · subst hsame
        rw [hstore, Store.find?_insert_self habsent] at hfound
        obtain rfl := Option.some.inj hfound
        exact .inr ⟨rfl, hresult, hsupply⟩
      · rw [hstore, Store.find?_insert_of_ne hsame] at hfound
        exact .inl hfound

private theorem Valid.respond {machine : Machine} (hvalid : machine.Valid) (thread : Nat)
    (call : Call) : (machine.respond thread call).Valid := by
  have hanswer := call.answer_of machine.store hvalid.next_pos
  constructor
  case store => exact hanswer.valid hvalid.store
  case next_pos => exact Nat.lt_of_lt_of_le hvalid.next_pos hanswer.next_le
  case settled =>
    intro event hevent key shared hkey hresult
    rcases List.mem_append.mp hevent with hevent | hevent
    · exact (hvalid.settled event hevent key shared hkey hresult).of_extended
        (machine.entries_extended_respond hvalid thread call)
    · obtain rfl := List.mem_singleton.mp hevent
      exact Call.settled_of_answer hkey hresult
  case agreed =>
    -- The new answer comes last, so it only has to follow the earlier ones.
    refine List.pairwise_append.mpr ⟨hvalid.agreed, List.pairwise_singleton _ _, ?_⟩
    intro event hevent later hlater key shared hkey hsame hresult
    obtain rfl := List.mem_singleton.mp hlater
    have hsettled := hvalid.settled event hevent key shared hkey hresult
    have heq := Call.answer_of_settled hvalid.store hsame hsettled machine.supply
    constructor
    · exact congrArg Answer.result heq
    · simp [heq]
  case returned =>
    intro event hevent key hkey hmade
    rcases List.mem_append.mp hevent with hevent | hevent
    · exact hvalid.returned event hevent key hkey hmade
    · obtain rfl := List.mem_singleton.mp hevent
      rcases Call.made_cases hkey machine.store machine.supply with
        ⟨hsupply, _⟩ | ⟨shared, _, _, hresult, _⟩
      · simp [hsupply] at hmade
      · exact ⟨shared, hresult⟩
  case recorded =>
    intro key shared hfound
    rcases find?_respond_cases hfound with hfound | ⟨hkey, hresult, hsupply⟩
    · obtain ⟨event, hevent, hrest⟩ := hvalid.recorded key shared hfound
      exact ⟨event, List.mem_append_left _ hevent, hrest⟩
    · exact ⟨_, List.mem_append_right _ (List.mem_singleton.mpr rfl), hkey, hresult,
        bne_iff_ne.mpr hsupply⟩

theorem Step.valid {machine after : Machine} (hstep : Step machine after)
    (hvalid : machine.Valid) : after.Valid := by
  cases hstep with
  | issue thread call =>
    exact ⟨hvalid.store, hvalid.next_pos, hvalid.settled, hvalid.agreed, hvalid.returned,
      hvalid.recorded⟩
  | respond thread call => exact hvalid.respond thread call
  | elsewhere supply hnext =>
    exact ⟨hvalid.store, Nat.lt_of_lt_of_le hvalid.next_pos hnext, hvalid.settled,
      hvalid.agreed, hvalid.returned, hvalid.recorded⟩

theorem Step.entries_extended {machine after : Machine} (hstep : Step machine after)
    (hvalid : machine.Valid) : machine.store.entries <+: after.store.entries := by
  cases hstep with
  | issue => exact List.prefix_refl _
  | respond thread call => exact machine.entries_extended_respond hvalid thread call
  | elsewhere => exact List.prefix_refl _

theorem valid_of_reaches {start machine : Machine} (hreach : Reaches start machine)
    (hstart : start.Valid) : machine.Valid := by
  induction hreach with
  | refl => exact hstart
  | tail _ hstep ih => exact hstep.valid ih

/-- A cache only grows. -/
theorem entries_extended_of_reaches {start machine : Machine} (hreach : Reaches start machine)
    (hstart : start.Valid) : start.store.entries <+: machine.store.entries := by
  induction hreach with
  | refl => exact List.prefix_refl _
  | tail hbefore hstep ih =>
    exact ih.trans (hstep.entries_extended (valid_of_reaches hbefore hstart))

private theorem Valid.agrees {machine : Machine} (hvalid : machine.Valid) {event other : Event}
    (hevent : event ∈ machine.history) (hother : other ∈ machine.history) :
    event.Agrees other := by
  have hforward : machine.history.Pairwise Event.Agrees := by
    refine hvalid.agreed.imp fun hsettles key a b hkey hsame ha hb => ?_
    obtain ⟨hresult, _⟩ := hsettles key a hkey hsame ha
    exact Except.ok.inj (hresult.symm.trans hb)
  have hbackward : machine.history.Pairwise (flip Event.Agrees) := by
    refine hvalid.agreed.imp fun hsettles key a b hkey hsame ha hb => ?_
    obtain ⟨hresult, _⟩ := hsettles key b hsame hkey hb
    exact Except.ok.inj (ha.symm.trans hresult)
  refine List.Pairwise.forall_of_forall_of_flip ?_ hforward hbackward hevent hother
  intro event _ key a b _ _ ha hb
  exact Except.ok.inj (ha.symm.trans hb)

/-- Two objects are never made for one key. -/
private theorem Valid.length_made_le {machine : Machine} (hvalid : machine.Valid)
    (key : String) :
    (machine.history.filter fun event =>
      event.made && event.call.key? == some key).length ≤ 1 := by
  have hpairwise := hvalid.agreed.filter fun event =>
    event.made && event.call.key? == some key
  have hmem (event : Event) (hevent : event ∈ machine.history.filter fun event =>
      event.made && event.call.key? == some key) :
      event ∈ machine.history ∧ event.made = true ∧ event.call.key? = some key := by
    simpa using hevent
  generalize machine.history.filter _ = made at hpairwise hmem ⊢
  match made with
  | [] => exact Nat.zero_le 1
  | [_] => exact Nat.le_refl 1
  | first :: second :: rest =>
    obtain ⟨hfirst, hmade, hkey⟩ := hmem first (by simp)
    obtain ⟨_, hagain, hsame⟩ := hmem second (by simp)
    obtain ⟨shared, hresult⟩ := hvalid.returned first hfirst key hkey hmade
    obtain ⟨_, hnone⟩ := List.rel_of_pairwise_cons hpairwise (List.mem_cons_self ..)
      key shared hkey hsame hresult
    rw [hagain] at hnone
    cases hnone

/-- However threads interleave on one cache, all calls with one key that return a pattern
    return the same one, the later of them without making an object; at most one object is
    made for a key, the store holds exactly what was made for its keys, and what it holds
    stays there. -/
theorem one_object_per_key {machine later : Machine} (hreach : Reaches {} machine)
    (hlater : Reaches machine later) :
    (∀ event ∈ later.history, ∀ other ∈ later.history, event.Agrees other) ∧
    later.history.Pairwise Event.Settles ∧
    (∀ key, (later.history.filter fun event =>
      event.made && event.call.key? == some key).length ≤ 1) ∧
    (∀ key shared, later.store.find? key = some shared →
      ∃ event ∈ later.history, event.call.key? = some key ∧ event.result = .ok shared ∧
        event.made = true) ∧
    machine.store.entries <+: later.store.entries ∧
    (later.store.entries.map Prod.fst).Nodup := by
  have hbefore := valid_of_reaches hreach valid_start
  have hvalid := valid_of_reaches hlater hbefore
  exact ⟨fun _ hevent _ hother => hvalid.agrees hevent hother, hvalid.agreed, hvalid.length_made_le,
    hvalid.recorded, entries_extended_of_reaches hlater hbefore, hvalid.store.nodup⟩

/-- Two threads ask for one text at the same time; the second to ask is answered first. -/
theorem one_object_for_two_threads :
    let call : Call := { method := .make, input := .text "a" }
    let waiting : Machine :=
      { pending := Function.update (Function.update (fun _ => none) 0 (some call)) 1 (some call) }
    let answered := (waiting.respond 1 call).respond 0 call
    answered.history.map Event.made = [true, false] ∧ answered.store.size = 1 ∧
      answered.history.Pairwise Event.Settles := by
  intro call waiting answered
  have hwaiting : Reaches {} waiting :=
    .tail (.single (.issue 0 call rfl)) (.issue 1 call rfl)
  have hanswered : Reaches waiting answered :=
    .tail (.single (.respond 1 call rfl)) (.respond 0 call rfl)
  exact ⟨by decide +kernel, by decide +kernel, (one_object_per_key hwaiting hanswered).2.1⟩

end Machine

end Patternwork
