/-
**Which documents are accepted, and why the others are refused.**

A document is refused for its shape before the order of its steps is looked at: a value is accepted
if it is a well-formed document whose step numbers never decrease, a well-formed document with a
drop is refused with the first drop, and whatever is not well-formed is refused for its shape.

Main definitions:

* `Json.stepNumber`, `Json.steps`: the step number that an item carries, and those of a document;
* `FirstDrop`: **the first place at which a list of numbers decreases**.

Main results:

* `Payload.firstDecrease_eq_some_iff`: the search finds the first drop;
* `Json.steps_eq`: the numbers that are compared are those that the value carries;
* `Payload.accepts_iff`: **the three outcomes of decoding a value**.
-/
import Mathlib.Data.List.Chain
import TracePlayer.Proofs.Trace.Document

set_option autoImplicit false

namespace TracePlayer

/-! ### Drops -/

/-- **The first place at which a list of numbers decreases**: up to there it never does. -/
def FirstDrop (steps : List Nat) (position previous found : Nat) : Prop :=
  ∃ earlier later, steps = earlier ++ previous :: found :: later ∧
    position = earlier.length + 1 ∧ found < previous ∧ (earlier ++ [previous]).Pairwise (· ≤ ·)

namespace FirstDrop

variable {a b position previous found : Nat} {rest : List Nat}

theorem pos {steps : List Nat} (h : FirstDrop steps position previous found) : 0 < position := by
  obtain ⟨earlier, _, -, rfl, -⟩ := h
  exact Nat.succ_pos earlier.length

theorem not_singleton : ¬ FirstDrop [a] position previous found := by
  rintro ⟨earlier, later, hsteps, -⟩
  have hlength := congrArg List.length hsteps
  simp only [List.length_append, List.length_cons, List.length_nil] at hlength
  omega

/-- A list that begins with a drop has its first drop there. -/
theorem cons_cons_iff_of_lt (hlt : b < a) :
    FirstDrop (a :: b :: rest) position previous found ↔
      position = 1 ∧ previous = a ∧ found = b := by
  constructor
  · rintro ⟨earlier, later, hsteps, rfl, hdrop, hbefore⟩
    -- With anything before the drop, the first two numbers would stand there in order.
    match earlier with
    | [] =>
        simp only [List.nil_append, List.cons.injEq] at hsteps
        exact ⟨rfl, hsteps.1.symm, hsteps.2.1.symm⟩
    | [x] =>
        simp only [List.cons_append, List.nil_append, List.cons.injEq] at hsteps
        obtain ⟨rfl, rfl, -⟩ := hsteps
        exact absurd (List.rel_of_pairwise_cons hbefore List.mem_cons_self) (Nat.not_le.2 hlt)
    | x :: y :: more =>
        simp only [List.cons_append, List.cons.injEq] at hsteps
        obtain ⟨rfl, rfl, -⟩ := hsteps
        exact absurd (List.rel_of_pairwise_cons hbefore List.mem_cons_self) (Nat.not_le.2 hlt)
  · rintro ⟨rfl, rfl, rfl⟩
    exact ⟨[], rest, rfl, rfl, hlt, by simp⟩

/-- A list that does not begin with a drop has the first drop of its rest. -/
theorem cons_cons_iff_of_le (hle : a ≤ b) :
    FirstDrop (a :: b :: rest) (position + 1) previous found ↔
      FirstDrop (b :: rest) position previous found := by
  constructor
  · rintro ⟨earlier, later, hsteps, hposition, hdrop, hbefore⟩
    cases earlier with
    | nil =>
        simp only [List.nil_append, List.cons.injEq] at hsteps
        omega
    | cons x more =>
        obtain ⟨-, hsteps⟩ := List.cons.inj hsteps
        exact ⟨more, later, hsteps, Nat.succ.inj hposition, hdrop, (List.pairwise_cons.1 hbefore).2⟩
  · rintro ⟨earlier, later, hsteps, rfl, hdrop, hbefore⟩
    refine ⟨a :: earlier, later, by rw [hsteps, List.cons_append], rfl, hdrop, ?_⟩
    rw [List.cons_append, ← List.isChain_iff_pairwise]
    rw [← List.isChain_iff_pairwise] at hbefore
    -- The number before is not larger than the next one, and so than none of the later ones.
    cases earlier with
    | nil =>
        obtain ⟨rfl, -⟩ := List.cons.inj hsteps
        exact .cons_cons hle hbefore
    | cons x more =>
        obtain ⟨rfl, -⟩ := List.cons.inj hsteps
        exact .cons_cons hle hbefore

end FirstDrop

namespace Payload

variable {events : List Event} {start : Nat}

/-- The numbers of the steps of a list of events. -/
def stepNumbers (events : List Event) : List Nat := events.map fun event => event.step.toNat

/-- The search finds nothing if the steps never decrease. -/
theorem firstDecrease_eq_none_iff :
    firstDecrease start events = none ↔ (stepNumbers events).Pairwise (· ≤ ·) := by
  rw [← List.isChain_iff_pairwise]
  induction events generalizing start with
  | nil => simp [firstDecrease, stepNumbers]
  | cons first rest ih =>
      cases rest with
      | nil => simp [firstDecrease, stepNumbers]
      | cons second rest =>
          rw [firstDecrease]
          split
          · next hlt =>
              have hnot : ¬ first.step.toNat ≤ second.step.toNat := Nat.not_le.2 hlt
              simp [stepNumbers, hnot]
          · next hlt =>
              have hle : first.step.toNat ≤ second.step.toNat := Nat.not_lt.1 hlt
              simpa [stepNumbers, hle] using ih

/-- **The search finds the first drop.** -/
theorem firstDecrease_eq_some_iff {place : Nat} {previous found : UInt64} :
    firstDecrease start events = some (place, previous, found) ↔
      ∃ position, start + position = place + 1 ∧
        FirstDrop (stepNumbers events) position previous.toNat found.toNat := by
  induction events generalizing start with
  | nil => simp [firstDecrease, stepNumbers, FirstDrop]
  | cons first rest ih =>
      cases rest with
      | nil => simp [firstDecrease, stepNumbers, FirstDrop.not_singleton]
      | cons second rest =>
          rw [firstDecrease]
          split
          · next hlt =>
              have hlt : second.step.toNat < first.step.toNat := UInt64.lt_iff_toNat_lt.1 hlt
              simp only [stepNumbers, List.map_cons, FirstDrop.cons_cons_iff_of_lt hlt,
                Option.some.injEq, Prod.mk.injEq, UInt64.toNat_inj]
              constructor
              · rintro ⟨rfl, rfl, rfl⟩
                exact ⟨1, rfl, rfl, rfl, rfl⟩
              · rintro ⟨position, hplace, rfl, rfl, rfl⟩
                exact ⟨Nat.succ.inj hplace, rfl, rfl⟩
          · next hlt =>
              have hle : first.step.toNat ≤ second.step.toNat := Nat.not_lt.1 hlt
              rw [ih]
              constructor
              · rintro ⟨position, hplace, hdrop⟩
                exact ⟨position + 1, by omega, (FirstDrop.cons_cons_iff_of_le hle).2 hdrop⟩
              · rintro ⟨position, hplace, hdrop⟩
                obtain ⟨position, rfl⟩ := Nat.exists_eq_succ_of_ne_zero hdrop.pos.ne'
                exact ⟨position, by omega, (FirstDrop.cons_cons_iff_of_le hle).1 hdrop⟩

end Payload

/-! ### The steps of a document -/

namespace Json

/-- The number that an item carries as its step. -/
def stepNumber (item : Json) : Nat :=
  match item.field? "step" with
  | some (num (.int n)) => n.toNat
  | _ => 0

/-- The step numbers that a value carries, item by item. -/
def steps (value : Json) : List Nat := value.traceItems.map stepNumber

theorem stepNumber_of_decode {item : Json} {event : Event} (h : Event.decode item = .ok event) :
    item.stepNumber = event.step.toNat := by
  obtain ⟨entries, draft, rfl, hfold, makes⟩ := Event.decode_eq_ok_iff.1 h
  obtain ⟨-, once⟩ := (Event.exists_foldlM_add_iff entries).1 ⟨draft, hfold⟩
  obtain ⟨⟨key, value⟩, hentry, hkey, hread⟩ :=
    (Event.value_foldlM_add_iff hfold .step event.step).1 makes.step
  obtain rfl : key = "step" := List.mem_singleton.1 hkey
  obtain rfl : value = num (.int event.step.toNat) := toWord64_eq_ok_iff.1 hread
  rw [stepNumber, field?, once.lookup_eq_some hkey hentry]
  exact Int.toNat_natCast event.step.toNat

theorem map_stepNumber_of_map_decode {items : List Json} {events : List Event}
    (h : items.map Event.decode = events.map .ok) :
    items.map stepNumber = Payload.stepNumbers events := by
  induction items generalizing events with
  | nil =>
      obtain rfl : events = [] := List.map_eq_nil_iff.1 h.symm
      rfl
  | cons item rest ih =>
      cases events with
      | nil => cases h
      | cons event others =>
          obtain ⟨hitem, hrest⟩ := List.cons.inj h
          rw [List.map_cons, stepNumber_of_decode hitem, ih hrest]
          rfl

/-- **The numbers that are compared are those that the value carries.** -/
theorem steps_eq {value : Json} {payload : Payload} (h : Payload.decodeParts value = .ok payload) :
    value.steps = Payload.stepNumbers payload.events :=
  map_stepNumber_of_map_decode (Payload.map_decode_traceItems h)

end Json

namespace Payload

/-! ### The three outcomes -/

variable {payload : Payload}

theorem exists_checkOrder_iff :
    (∃ other, payload.checkOrder = .ok other) ↔
      (stepNumbers payload.events).Pairwise (· ≤ ·) := by
  simp [checkOrder_eq_ok_iff, firstDecrease_eq_none_iff]

theorem checkOrder_eq_stepOrder_iff {position : Nat} {previous found : UInt64} :
    payload.checkOrder = .error (.stepOrder position previous found) ↔
      FirstDrop (stepNumbers payload.events) position previous.toNat found.toNat := by
  have hfirst : payload.checkOrder = .error (.stepOrder position previous found) ↔
      firstDecrease 1 payload.events = some (position, previous, found) := by
    unfold checkOrder
    cases firstDecrease 1 payload.events <;> simp [Prod.ext_iff]
  rw [hfirst, firstDecrease_eq_some_iff]
  constructor
  · rintro ⟨place, hplace, hdrop⟩
    obtain rfl : place = position := by omega
    exact hdrop
  · exact fun hdrop => ⟨position, Nat.add_comm 1 position, hdrop⟩

/-- **The three outcomes of decoding a value**: it is accepted if it is a well-formed document whose
steps never decrease; a well-formed document whose steps do decrease is refused with the first drop;
any other value is refused for its shape, whatever the order of its steps. -/
theorem accepts_iff (value : Json) :
    ((∃ payload, decode value = .ok payload) ↔
        value.IsTrace ∧ value.steps.Pairwise (· ≤ ·)) ∧
      (∀ position previous found, decode value = .error (.stepOrder position previous found) ↔
        value.IsTrace ∧ FirstDrop value.steps position previous.toNat found.toNat) ∧
      ((∃ cause, decode value = .error (.malformed cause)) ↔ ¬ value.IsTrace) := by
  rw [← exists_decodeParts_iff]
  cases hparts : decodeParts value with
  | error cause => simp [decode, hparts]
  | ok payload =>
      have hdecode : decode value = payload.checkOrder := by simp only [decode, hparts]
      simp only [hdecode, Json.steps_eq hparts, Except.ok.injEq, exists_eq', true_and, not_true,
        iff_false, not_exists]
      exact ⟨exists_checkOrder_iff, fun _ _ _ => checkOrder_eq_stepOrder_iff,
        fun _ => checkOrder_ne_malformed⟩

/-- The third of three events takes the steps back. -/
example : decode (.arr ([5, 7, 3].map fun step => (Event.plain step .line 0).encode)) =
    .error (.stepOrder 2 7 3) := by rfl

end Payload

end TracePlayer
