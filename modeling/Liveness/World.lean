import Liveness.Chain.Basic
import Liveness.Message
import Liveness.Schedule
import Liveness.Store.Basic

/-!
# The world of the engine

All that a step of the engine reads and changes: the chain it asks, the store it keeps, what it
remembers from block to block, the work it has put off and the notices it has sent. A step may fail
or wait for ever; what it did before that stands. The effects of a step, that is what it wrote and
what it sent, are recorded in their order.
-/

namespace Liveness

/-! ## Recorded results

A result together with what was recorded on the way to it. What is recorded cannot be read by the
computation that records it. -/

/-- A result and a record, oldest entry first. -/
structure Recorded (ε α : Type) where
  /-- The result. -/
  value : α
  /-- The record. -/
  log : List ε

namespace Recorded

variable {ε : Type}

instance : Monad (Recorded ε) where
  pure a := ⟨a, []⟩
  bind x f := ⟨(f x.value).value, x.log ++ (f x.value).log⟩

instance : LawfulMonad (Recorded ε) :=
  LawfulMonad.mk' _ (fun x => by simp [Functor.map]) (fun a f => by simp [bind, pure])
    (fun x f g => by simp [bind])

end Recorded

/-! ## Worlds -/

/-- A notice on its way to a target. -/
structure Delivery where
  /-- The target. -/
  target : String
  /-- The text. -/
  text : String
  deriving DecidableEq, Repr

/-- Work that is put off. -/
inductive Job where
  /-- Keep a block. -/
  | keep (block : BlockRecord)
  /-- Look for changes of validators in the transactions of a block. -/
  | scan (height : Nat)
  /-- Refresh the slashing window. -/
  | refreshWindow
  /-- Send reports. -/
  | report (interval height : Nat)
  /-- Ask again whether a validator is jailed. -/
  | recheck (operator : String) (height : Nat)
  /-- Ask for the validator of a missing record. -/
  | refetch (operator : String)
  deriving DecidableEq, Repr

/-- The world of the engine. -/
structure World (κ σ : Type) where
  /-- The chain. -/
  chain : κ
  /-- The store. -/
  store : σ
  /-- The height of the latest block, zero before the first. -/
  lastHeight : Nat
  /-- The slashing window. -/
  window : Float
  /-- When reports are due. -/
  reports : Schedule
  /-- The operators whose recheck is not finished. -/
  rechecking : List String
  /-- The work put off, oldest first. -/
  backlog : List Job
  /-- The notices sent, oldest first. -/
  outbox : List Delivery
  deriving DecidableEq, Repr

/-- What a step does to be seen from outside. -/
inductive Effect (σ : Type) where
  /-- It wrote to the store, which is then this one. -/
  | stored (store : σ)
  /-- It sent a message to targets. -/
  | sent (targets : List String) (message : Message)
  deriving DecidableEq, Repr

/-- A step. -/
abbrev Work (κ σ α : Type) := ExceptT Stop (StateT (World κ σ) (Recorded (Effect σ))) α

namespace Work

variable {κ σ α : Type}

/-- The outcome of a step, and the world after it. -/
def runIn (x : Work κ σ α) (w : World κ σ) : Except Stop α × World κ σ :=
  (StateT.run (ExceptT.run x) w).value

/-- The effects of a step, oldest first. -/
def effects (x : Work κ σ α) (w : World κ σ) : List (Effect σ) := (StateT.run (ExceptT.run x) w).log

/-- Asks the chain. -/
def ask (query : κ → Except Failure α × κ) : Work κ σ α :=
  ExceptT.mk <| modifyGet fun w =>
    let (r, chain) := query w.chain
    (r.mapError Stop.failed, { w with chain := chain })

/-- Reads the store. -/
def fetch (query : σ → Except Stop α) : Work κ σ α :=
  ExceptT.mk <| modifyGet fun w => (query w.store, w)

/-- Writes to the store. -/
def commit (change : σ → Except Stop α × σ) : Work κ σ α :=
  ExceptT.mk fun w =>
    let (r, store) := change w.store
    ⟨(r, { w with store := store }), [.stored store]⟩

/-- Fails. -/
def fail (f : Failure) : Work κ σ α := throw (Stop.failed f)

/-- A value, or the failure of there being none. -/
def ofExcept : Except Failure α → Work κ σ α
  | .ok a => pure a
  | .error f => fail f

/-- The outcome of a step. -/
def attempt (x : Work κ σ α) : Work κ σ (Except Stop α) := ExceptT.lift (ExceptT.run x)

/-- The outcome of a step that does not wait for ever. -/
def isolate (x : Work κ σ α) : Work κ σ (Except Failure α) := do
  match ← attempt x with
  | .ok a => return .ok a
  | .error (.failed f) => return .error f
  | .error .hung => throw .hung

/-- Sends a message to targets. -/
def broadcast (targets : List String) (m : Message) : Work κ σ Unit :=
  ExceptT.mk fun w =>
    ⟨(.ok (), { w with outbox := w.outbox ++ targets.map (⟨·, m.text⟩) }), [.sent targets m]⟩

/-- Puts work off. -/
def putOff (job : Job) : Work κ σ Unit := modify fun w => { w with backlog := w.backlog ++ [job] }

/-! ## Outcomes -/

variable {β : Type}

@[simp] theorem runIn_pure (a : α) (w : World κ σ) :
    (pure a : Work κ σ α).runIn w = (.ok a, w) := rfl

@[simp] theorem runIn_bind (x : Work κ σ α) (f : α → Work κ σ β) (w : World κ σ) :
    (x >>= f).runIn w =
      match x.runIn w with
      | (.ok a, w) => (f a).runIn w
      | (.error s, w) => (.error s, w) := by
  simp only [runIn, bind, ExceptT.bind, ExceptT.mk, ExceptT.run, StateT.run, StateT.bind]
  rcases x w with ⟨⟨r, w⟩, log⟩
  cases r <;> rfl

@[simp] theorem runIn_map (f : α → β) (x : Work κ σ α) (w : World κ σ) :
    (f <$> x).runIn w = ((x.runIn w).1.map f, (x.runIn w).2) := by
  simp only [runIn, Functor.map, ExceptT.map, ExceptT.mk, ExceptT.run, StateT.run, StateT.bind,
    bind]
  rcases x w with ⟨⟨r, w⟩, log⟩
  cases r <;> rfl

@[simp] theorem runIn_discard (x : Work κ σ α) (w : World κ σ) :
    (discard x).runIn w = ((x.runIn w).1.map fun _ => (), (x.runIn w).2) :=
  runIn_map _ x w

@[simp] theorem runIn_get (w : World κ σ) : (get : Work κ σ (World κ σ)).runIn w = (.ok w, w) := rfl

@[simp] theorem runIn_modify (f : World κ σ → World κ σ) (w : World κ σ) :
    (modify f : Work κ σ Unit).runIn w = (.ok (), f w) := rfl

@[simp] theorem runIn_throw (s : Stop) (w : World κ σ) :
    (throw s : Work κ σ α).runIn w = (.error s, w) := rfl

@[simp] theorem runIn_fail (f : Failure) (w : World κ σ) :
    (fail f : Work κ σ α).runIn w = (.error (.failed f), w) := rfl

@[simp] theorem runIn_ofExcept (r : Except Failure α) (w : World κ σ) :
    (ofExcept r : Work κ σ α).runIn w = (r.mapError Stop.failed, w) := by
  cases r <;> rfl

@[simp] theorem runIn_fetch (query : σ → Except Stop α) (w : World κ σ) :
    (fetch query : Work κ σ α).runIn w = (query w.store, w) := rfl

@[simp] theorem runIn_ask (query : κ → Except Failure α × κ) (w : World κ σ) :
    (ask query : Work κ σ α).runIn w =
      ((query w.chain).1.mapError Stop.failed, { w with chain := (query w.chain).2 }) := rfl

@[simp] theorem runIn_commit (change : σ → Except Stop α × σ) (w : World κ σ) :
    (commit change : Work κ σ α).runIn w =
      ((change w.store).1, { w with store := (change w.store).2 }) := rfl

@[simp] theorem runIn_attempt (x : Work κ σ α) (w : World κ σ) :
    (attempt x).runIn w = (.ok (x.runIn w).1, (x.runIn w).2) := rfl

@[simp] theorem runIn_isolate (x : Work κ σ α) (w : World κ σ) :
    (isolate x).runIn w =
      (match (x.runIn w).1 with
        | .ok a => .ok (.ok a)
        | .error (.failed f) => .ok (.error f)
        | .error .hung => .error .hung, (x.runIn w).2) := by
  rw [isolate, runIn_bind, runIn_attempt]
  rcases (x.runIn w).1 with (_ | _) | _ <;> rfl

@[simp] theorem runIn_broadcast (targets : List String) (m : Message) (w : World κ σ) :
    (broadcast targets m : Work κ σ Unit).runIn w =
      (.ok (), { w with outbox := w.outbox ++ targets.map (⟨·, m.text⟩) }) := rfl

@[simp] theorem runIn_putOff (job : Job) (w : World κ σ) :
    (putOff job : Work κ σ Unit).runIn w = (.ok (), { w with backlog := w.backlog ++ [job] }) := rfl

@[simp] theorem runIn_ite (c : Prop) [Decidable c] (x y : Work κ σ α) (w : World κ σ) :
    (if c then x else y).runIn w = if c then x.runIn w else y.runIn w := by
  split <;> rfl

/-! ## Effects -/

@[simp] theorem effects_pure (a : α) (w : World κ σ) : (pure a : Work κ σ α).effects w = [] := rfl

@[simp] theorem effects_bind (x : Work κ σ α) (f : α → Work κ σ β) (w : World κ σ) :
    (x >>= f).effects w = x.effects w ++
      match x.runIn w with
      | (.ok a, w) => (f a).effects w
      | (.error _, _) => [] := by
  simp only [effects, runIn, bind, ExceptT.bind, ExceptT.mk, ExceptT.run, StateT.run, StateT.bind]
  rcases x w with ⟨⟨r, w⟩, log⟩
  cases r <;> rfl

@[simp] theorem effects_map (f : α → β) (x : Work κ σ α) (w : World κ σ) :
    (f <$> x).effects w = x.effects w := by
  simp only [effects, Functor.map, ExceptT.map, ExceptT.mk, ExceptT.run, StateT.run, StateT.bind,
    bind]
  rcases x w with ⟨⟨r, w⟩, log⟩
  cases r <;> exact List.append_nil log

@[simp] theorem effects_discard (x : Work κ σ α) (w : World κ σ) :
    (discard x).effects w = x.effects w :=
  effects_map _ x w

@[simp] theorem effects_get (w : World κ σ) : (get : Work κ σ (World κ σ)).effects w = [] := rfl

@[simp] theorem effects_modify (f : World κ σ → World κ σ) (w : World κ σ) :
    (modify f : Work κ σ Unit).effects w = [] := rfl

@[simp] theorem effects_throw (s : Stop) (w : World κ σ) :
    (throw s : Work κ σ α).effects w = [] := rfl

@[simp] theorem effects_fail (f : Failure) (w : World κ σ) :
    (fail f : Work κ σ α).effects w = [] := rfl

@[simp] theorem effects_ofExcept (r : Except Failure α) (w : World κ σ) :
    (ofExcept r : Work κ σ α).effects w = [] := by
  cases r <;> rfl

@[simp] theorem effects_fetch (query : σ → Except Stop α) (w : World κ σ) :
    (fetch query : Work κ σ α).effects w = [] := rfl

@[simp] theorem effects_ask (query : κ → Except Failure α × κ) (w : World κ σ) :
    (ask query : Work κ σ α).effects w = [] := rfl

@[simp] theorem effects_commit (change : σ → Except Stop α × σ) (w : World κ σ) :
    (commit change : Work κ σ α).effects w = [.stored (change w.store).2] := rfl

@[simp] theorem effects_attempt (x : Work κ σ α) (w : World κ σ) :
    (attempt x).effects w = x.effects w := by
  simp only [effects, attempt, ExceptT.lift, ExceptT.mk, ExceptT.run, StateT.run, Functor.map,
    StateT.map, bind, pure]
  exact List.append_nil _

@[simp] theorem effects_isolate (x : Work κ σ α) (w : World κ σ) :
    (isolate x).effects w = x.effects w := by
  rw [isolate, effects_bind, effects_attempt, runIn_attempt]
  rcases (x.runIn w).1 with (_ | _) | _ <;> exact List.append_nil _

@[simp] theorem effects_broadcast (targets : List String) (m : Message) (w : World κ σ) :
    (broadcast targets m : Work κ σ Unit).effects w = [.sent targets m] := rfl

@[simp] theorem effects_putOff (job : Job) (w : World κ σ) :
    (putOff job : Work κ σ Unit).effects w = [] := rfl

@[simp] theorem effects_ite (c : Prop) [Decidable c] (x y : Work κ σ α) (w : World κ σ) :
    (if c then x else y).effects w = if c then x.effects w else y.effects w := by
  split <;> rfl

end Work

end Liveness
