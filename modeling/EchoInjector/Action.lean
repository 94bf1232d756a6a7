import EchoInjector.Failure
import EchoInjector.Log

/-!
# Actions

An action works on a state of some kind. It may change the state, it writes log records, and in
the end it either gives a value or fails. The changes made and the records written **before a
failure remain**: an action that fails halfway has still sent what it sent and said what it said.

Actions are combined one after the other. What comes after a failure is not done at all.
-/

namespace EchoInjector

/-- What an action leaves behind. -/
structure Effect (σ α : Type) where
  /-- The value, or why there is none. -/
  result : Except Failure α
  /-- The state afterwards. -/
  state : σ
  /-- The records written, in order. -/
  log : List Log.Record

/-- An action on a state of type `σ` that gives a value of type `α`. -/
def Action (σ α : Type) := σ → Effect σ α

namespace Action

variable {σ α β : Type}

/-- What an action does to a state. -/
def run (x : Action σ α) (s : σ) : Effect σ α := x s

/-- Gives a value and does nothing. -/
def give (a : α) : Action σ α := fun s => ⟨.ok a, s, []⟩

/-- One action, then another that depends on the first one's value. -/
def andThen (x : Action σ α) (f : α → Action σ β) : Action σ β := fun s =>
  match x s with
  | ⟨.error e, s', log⟩ => ⟨.error e, s', log⟩
  | ⟨.ok a, s', log⟩ =>
    let next := f a s'
    { next with log := log ++ next.log }

instance : Monad (Action σ) where
  pure := give
  bind := andThen

/-- Fails and does nothing else. -/
def fail (e : Failure) : Action σ α := fun s => ⟨.error e, s, []⟩

/-- The state as it is. -/
def get : Action σ σ := fun s => ⟨.ok s, s, []⟩

/-- Writes one record. -/
def say (level : Log.Level) (topic : Log.Topic) (text : String) : Action σ Unit :=
  fun s => ⟨.ok (), s, [⟨level, topic, text⟩]⟩

/-- Gives the value of a computation, or fails as it failed. -/
def ofExcept (r : Except Failure α) : Action σ α := fun s => ⟨r, s, []⟩

@[simp] theorem run_pure (a : α) (s : σ) : (pure a : Action σ α).run s = ⟨.ok a, s, []⟩ := rfl

@[simp] theorem run_fail (e : Failure) (s : σ) :
    (fail e : Action σ α).run s = ⟨.error e, s, []⟩ := rfl

@[simp] theorem run_get (s : σ) : (get : Action σ σ).run s = ⟨.ok s, s, []⟩ := rfl

@[simp] theorem run_say (level : Log.Level) (topic : Log.Topic) (text : String) (s : σ) :
    (say level topic text : Action σ Unit).run s = ⟨.ok (), s, [⟨level, topic, text⟩]⟩ := rfl

@[simp] theorem run_ofExcept (r : Except Failure α) (s : σ) :
    (ofExcept r : Action σ α).run s = ⟨r, s, []⟩ := rfl

/-- After a failure nothing more is done. -/
theorem run_bind_error {x : Action σ α} {f : α → Action σ β} {s s' : σ} {e : Failure}
    {log : List Log.Record} (h : x.run s = ⟨.error e, s', log⟩) :
    (x >>= f).run s = ⟨.error e, s', log⟩ := by
  change andThen x f s = _
  unfold run at h
  simp [andThen, h]

/-- After a value the next action goes on from the state reached. -/
theorem run_bind_ok {x : Action σ α} {f : α → Action σ β} {s s' : σ} {a : α}
    {log : List Log.Record} (h : x.run s = ⟨.ok a, s', log⟩) :
    (x >>= f).run s = { (f a).run s' with log := log ++ ((f a).run s').log } := by
  change andThen x f s = _
  unfold run at h
  simp [andThen, h, run]

/-- An effect with a value is what it leaves behind beside that value. -/
theorem run_of_result {x : Action σ α} {s : σ} {a : α} (h : (x.run s).result = .ok a) :
    x.run s = ⟨.ok a, (x.run s).state, (x.run s).log⟩ := by
  rw [← h]

/-- **A success in two steps**: both steps succeeded, the second from where the first ended. -/
theorem run_bind_eq_ok_iff {x : Action σ α} {f : α → Action σ β} {s s' : σ} {b : β}
    {log : List Log.Record} :
    (x >>= f).run s = ⟨.ok b, s', log⟩ ↔
      ∃ a t before after, x.run s = ⟨.ok a, t, before⟩ ∧ (f a).run t = ⟨.ok b, s', after⟩ ∧
        log = before ++ after := by
  constructor
  · intro h
    cases hx : x.run s with
    | mk result t before =>
      cases result with
      | error e =>
        rw [run_bind_error hx] at h
        cases h
      | ok a =>
        rw [run_bind_ok hx] at h
        cases hf : (f a).run t with
        | mk result' t' after =>
          rw [hf] at h
          cases h
          exact ⟨a, t, before, after, rfl, hf, rfl⟩
  · rintro ⟨a, t, before, after, hx, hf, rfl⟩
    rw [run_bind_ok hx, hf]

/-- To look at the state is to go on with it. -/
theorem run_get_bind (f : σ → Action σ β) (s : σ) : (get >>= f).run s = (f s).run s := by
  rw [run_bind_ok (run_get s)]
  rfl

/-- A success behind a record is a success without it. -/
theorem run_say_bind_eq_ok_iff {level : Log.Level} {topic : Log.Topic} {text : String}
    {f : Unit → Action σ β} {s s' : σ} {b : β} {log : List Log.Record} :
    (say level topic text >>= f).run s = ⟨.ok b, s', log⟩ ↔
      ∃ after, (f ()).run s = ⟨.ok b, s', after⟩ ∧ log = ⟨level, topic, text⟩ :: after := by
  rw [run_bind_ok (run_say level topic text s)]
  cases (f ()).run s with
  | mk result t after =>
    constructor
    · rintro ⟨⟩
      exact ⟨after, rfl, rfl⟩
    · rintro ⟨after, ⟨⟩, rfl⟩
      rfl

end Action

end EchoInjector
