import TensorScan.Error

set_option autoImplicit false

/-! # Steps that keep a log

Planning, compiling, running, registering and creating each leave a line in the log. A value of
`Logged α` is the outcome of such a step, an error or a result, together with the lines it
left. Lines written before an error stay.

`outcome_bind` and `log_bind` say what sequencing does; with them a statement about results is
proved without regard to the log.
-/

namespace TensorScan

instance decidableEqExcept {ε α : Type} [DecidableEq ε] [DecidableEq α] :
    DecidableEq (Except ε α)
  | .ok a, .ok b => decidable_of_iff (a = b) (by rw [Except.ok.injEq])
  | .error e, .error e' => decidable_of_iff (e = e') (by rw [Except.error.injEq])
  | .ok _, .error _ => isFalse nofun
  | .error _, .ok _ => isFalse nofun

/-- How much detail a line of the log carries. -/
inductive Level
  | debug
  | trace
  deriving DecidableEq

def Level.label : Level → String
  | .debug => "DEBUG"
  | .trace => "TRACE"

structure LogLine where
  level : Level
  text : String
  deriving DecidableEq

def LogLine.render (line : LogLine) : String := line.level.label ++ " " ++ line.text

/-- The outcome of a step and the lines it left. -/
structure Logged (α : Type) where
  outcome : Except Error α
  /-- The lines, oldest first. -/
  log : List LogLine
  deriving DecidableEq

namespace Logged

variable {α β : Type}

/-- A step that writes nothing. -/
def ofExcept (x : Except Error α) : Logged α := ⟨x, []⟩

def note (level : Level) (text : String) : Logged Unit := ⟨.ok (), [⟨level, text⟩]⟩

def fail (e : Error) : Logged α := ⟨.error e, []⟩

/-- One step after another; after an error nothing follows. -/
protected def bind (x : Logged α) (f : α → Logged β) : Logged β :=
  match x.outcome with
  | .error e => ⟨.error e, x.log⟩
  | .ok a => ⟨(f a).outcome, x.log ++ (f a).log⟩

instance : Monad Logged where
  pure a := ofExcept (.ok a)
  bind := Logged.bind

instance : MonadLift (Except Error) Logged where
  monadLift := ofExcept

@[simp] theorem outcome_pure (a : α) : (pure a : Logged α).outcome = .ok a := rfl

@[simp] theorem log_pure (a : α) : (pure a : Logged α).log = [] := rfl

@[simp] theorem outcome_ofExcept (x : Except Error α) : (ofExcept x).outcome = x := rfl

@[simp] theorem log_ofExcept (x : Except Error α) : (ofExcept x).log = [] := rfl

@[simp] theorem outcome_note (level : Level) (text : String) :
    (note level text).outcome = .ok () := rfl

@[simp] theorem log_note (level : Level) (text : String) :
    (note level text).log = [⟨level, text⟩] := rfl

@[simp] theorem outcome_fail (e : Error) : (fail e : Logged α).outcome = .error e := rfl

@[simp] theorem log_fail (e : Error) : (fail e : Logged α).log = [] := rfl

@[simp] theorem outcome_liftM (x : Except Error α) : (liftM x : Logged α).outcome = x := rfl

@[simp] theorem outcome_bind (x : Logged α) (f : α → Logged β) :
    (x >>= f).outcome = x.outcome >>= fun a => (f a).outcome := by
  show (Logged.bind x f).outcome = _
  unfold Logged.bind
  cases x.outcome <;> rfl

theorem log_bind_ok {x : Logged α} {a : α} (h : x.outcome = .ok a) (f : α → Logged β) :
    (x >>= f).log = x.log ++ (f a).log := by
  show (Logged.bind x f).log = _
  unfold Logged.bind
  rw [h]

theorem log_bind_error {x : Logged α} {e : Error} (h : x.outcome = .error e)
    (f : α → Logged β) : (x >>= f).log = x.log := by
  show (Logged.bind x f).log = _
  unfold Logged.bind
  rw [h]

end Logged

end TensorScan
