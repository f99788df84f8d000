import Mathlib.Data.List.Basic
import Liveness.Store.Memory

/-!
# Looking things up in the memory store

What a write to the memory store changes for those who look things up. Rows need not be in order for
this: the first row of a key is the one that is found and the one that is replaced.
-/

namespace Liveness

/-! ## Rows -/

namespace Rows

variable {α : Type} {key : α → String} {rows : List α} {a : α} {k : String}

theorem key_of_find? (h : find? key rows k = some a) : key a = k := by
  simpa using List.find?_some h

theorem mem_of_find? (h : find? key rows k = some a) : a ∈ rows := List.mem_of_find?_eq_some h

theorem find?_cons (b : α) :
    find? key (b :: rows) k = if key b = k then some b else find? key rows k := by
  by_cases h : key b = k <;> simp [find?, h]

theorem find?_put :
    find? key (put key rows a) k = if key a = k then some a else find? key rows k := by
  induction rows with
  | nil => rw [put, find?_cons]
  | cons b rest ih =>
    rw [put]
    by_cases hlt : key a < key b
    · rw [if_pos hlt, find?_cons]
    · rw [if_neg hlt]
      by_cases heq : key a = key b
      · rw [if_pos heq, find?_cons, find?_cons, ← heq]
        split <;> rfl
      · rw [if_neg heq, find?_cons, find?_cons, ih]
        by_cases hb : key b = k
        · rw [if_pos hb, if_pos hb, if_neg fun ha => heq (ha.trans hb.symm)]
        · rw [if_neg hb, if_neg hb]

theorem find?_erase (k' : String) :
    find? key (erase key rows k) k' = if k = k' then none else find? key rows k' := by
  induction rows with
  | nil => simp [find?, erase]
  | cons b rest ih =>
    by_cases hb : key b = k
    · have he : erase key (b :: rest) k = erase key rest k := by simp [erase, hb]
      rw [he, ih, find?_cons, hb]
      split <;> rfl
    · have he : erase key (b :: rest) k = b :: erase key rest k := by simp [erase, hb]
      rw [he, find?_cons, find?_cons, ih]
      by_cases hb' : key b = k'
      · rw [if_pos hb', if_pos hb', if_neg fun h => hb (hb'.trans h.symm)]
      · rw [if_neg hb', if_neg hb']

end Rows

/-! ## Records and subscriptions -/

namespace Memory

variable {m : Memory} {operator : String}

/-- The jailed flag of an operator that has a record. -/
def jailed? (m : Memory) (operator : String) : Option Bool := (m.validator? operator).map (·.jailed)

/-- The store in which an operator has a subscription, be it a fresh one. -/
def enrol (m : Memory) (operator : String) : Memory :=
  if (m.subscription? operator).isNone then m.putSubscription (.fresh operator) else m

/-- The targets that follow an operator. -/
def followers (m : Memory) (operator : String) : List String :=
  ((m.subscription? operator).map (·.subscribers)).getD []

theorem operator_of_subscription? {sub : Subscription} (h : m.subscription? operator = some sub) :
    sub.operator = operator := Rows.key_of_find? h

theorem operator_of_validator? {r : ValidatorRecord} (h : m.validator? operator = some r) :
    r.operator = operator := Rows.key_of_find? h

theorem mem_of_subscription? {sub : Subscription} (h : m.subscription? operator = some sub) :
    sub ∈ m.subscriptions := Rows.mem_of_find? h

theorem jailed?_of_validator? {r : ValidatorRecord} (h : m.validator? operator = some r) :
    m.jailed? operator = some r.jailed := by rw [jailed?, h]; rfl

theorem validator?_ne_none {jailed : Bool} (h : m.jailed? operator = some jailed) :
    m.validator? operator ≠ none := by
  intro hn
  simp [jailed?, hn] at h

theorem followers_of_subscription? {sub : Subscription} (h : m.subscription? operator = some sub) :
    m.followers operator = sub.subscribers := by rw [followers, h]; rfl

theorem subscription?_congr {m' : Memory} (h : m'.subscriptions = m.subscriptions)
    (operator : String) : m'.subscription? operator = m.subscription? operator := by
  rw [subscription?, h]
  rfl

theorem validator?_congr {m' : Memory} (h : m'.validators = m.validators) (operator : String) :
    m'.validator? operator = m.validator? operator := by
  rw [validator?, h]
  rfl

@[simp] theorem subscription?_putSubscription (sub : Subscription) :
    (m.putSubscription sub).subscription? operator =
      if sub.operator = operator then some sub else m.subscription? operator :=
  Rows.find?_put

@[simp] theorem validator?_putSubscription (sub : Subscription) :
    (m.putSubscription sub).validator? operator = m.validator? operator := rfl

@[simp] theorem jailed?_putSubscription (sub : Subscription) :
    (m.putSubscription sub).jailed? operator = m.jailed? operator := rfl

@[simp] theorem validator?_putValidator (r : ValidatorRecord) :
    (m.putValidator r).validator? operator =
      if r.operator = operator then some r else m.validator? operator :=
  Rows.find?_put

@[simp] theorem subscription?_putValidator (r : ValidatorRecord) :
    (m.putValidator r).subscription? operator = m.subscription? operator := rfl

@[simp] theorem followers_putValidator (r : ValidatorRecord) :
    (m.putValidator r).followers operator = m.followers operator := rfl

@[simp] theorem jailed?_putValidator (r : ValidatorRecord) :
    (m.putValidator r).jailed? operator =
      if r.operator = operator then some r.jailed else m.jailed? operator := by
  rw [jailed?, validator?_putValidator]
  split <;> rfl

@[simp] theorem subscription?_deleteSubscription (operator' : String) :
    (m.deleteSubscription operator').subscription? operator =
      if operator' = operator then none else m.subscription? operator :=
  Rows.find?_erase operator

@[simp] theorem validator?_deleteSubscription (operator' : String) :
    (m.deleteSubscription operator').validator? operator = m.validator? operator := rfl

@[simp] theorem jailed?_deleteSubscription (operator' : String) :
    (m.deleteSubscription operator').jailed? operator = m.jailed? operator := rfl

@[simp] theorem subscription?_insertBlock (block : BlockRecord) (limit : Nat) :
    (m.insertBlock block limit).subscription? operator = m.subscription? operator := rfl

@[simp] theorem validator?_insertBlock (block : BlockRecord) (limit : Nat) :
    (m.insertBlock block limit).validator? operator = m.validator? operator := rfl

@[simp] theorem jailed?_insertBlock (block : BlockRecord) (limit : Nat) :
    (m.insertBlock block limit).jailed? operator = m.jailed? operator := rfl

variable {sub : Subscription}

theorem enrol_of_none (h : m.subscription? operator = none) :
    m.enrol operator = m.putSubscription (.fresh operator) := by
  rw [enrol, h]
  rfl

theorem enrol_of_some (h : m.subscription? operator = some sub) : m.enrol operator = m := by
  rw [enrol, h]
  rfl

/-- After an enrolment the operator has a subscription, and the others are as they were. -/
theorem subscription?_enrol (m : Memory) (operator other : String) :
    (m.enrol operator).subscription? other =
      if operator = other then some ((m.subscription? operator).getD (.fresh operator))
      else m.subscription? other := by
  cases hs : m.subscription? operator with
  | none =>
    rw [enrol_of_none hs, subscription?_putSubscription]
    rfl
  | some sub =>
    rw [enrol_of_some hs]
    split_ifs with heq
    · rw [← heq, hs]
      rfl
    · rfl

/-! ## Writes of the store -/

theorem insertSubscription_of_none (h : m.subscription? sub.operator = none) :
    Store.insertSubscription m sub = (.ok (), m.putSubscription sub) := by
  show Store.written m (m.insertSubscription sub) = _
  simp [insertSubscription, h, Store.written]

theorem updateTracking_of_some (h : m.subscription? operator = some sub) (t : Tracking) :
    Store.updateTracking m operator t =
      (.ok (), m.putSubscription { sub with tracking := t }) := by
  show Store.written m (m.updateTracking operator t) = _
  simp [updateTracking, changeSubscription, h, Store.written]

theorem setSubscribers_of_some (h : m.subscription? operator = some sub) (targets : List String) :
    Store.setSubscribers m operator targets =
      (.ok (), m.putSubscription { sub with subscribers := targets }) := by
  show Store.written m (m.setSubscribers operator targets) = _
  simp [setSubscribers, changeSubscription, h, Store.written]

end Memory

end Liveness
