import TensorScan.Logged
import TensorScan.Operator.Invocation
import TensorScan.Text.Quoted

set_option autoImplicit false

/-! # Registries

A registry maps signatures to factories; a factory makes a kernel for an invocation, or refuses.
A signature is registered at most once, and nothing is ever removed. The registry belongs to
the runtime whose kernels it holds.

`Registry.add` and `Registry.registerAll` leave a registry to go on with also when they fail, and
`Registry.register` is for those who have no use for it then.

`Registry.signatures` lists the signatures in their own order, whatever order they came in.
-/

namespace TensorScan

abbrev Factory (K : Type) : Type := Invocation → Except Error K

/-- The kernels of a runtime. -/
structure Registry (K : Type) where
  runtime : String
  /-- The factories, in the order of their registration. -/
  entries : List (Signature × Factory K)

/-- The signature that an invocation asks for. -/
def Invocation.signature (call : Invocation) : Except Error Signature := do
  let dtype ← call.dtype operandTypeAttribute
  let index ← call.dtype indexTypeAttribute
  pure ⟨call.op, dtype, index⟩

namespace Registry

variable {K : Type}

def empty (runtime : String) : Registry K := ⟨runtime, []⟩

/-- The factory registered under a signature. -/
def factory? (r : Registry K) (sig : Signature) : Option (Factory K) := r.entries.lookup sig

def contains (r : Registry K) (sig : Signature) : Bool := (r.factory? sig).isSome

def size (r : Registry K) : Nat := r.entries.length

def isEmpty (r : Registry K) : Bool := r.entries.isEmpty

/-- The signatures in order. -/
def signatures (r : Registry K) : List Signature :=
  (r.entries.map Prod.fst).mergeSort fun a b => !b.before a

/-- The registry with these entries behind its own. -/
def append (r : Registry K) (entries : List (Signature × Factory K)) : Registry K :=
  { r with entries := r.entries ++ entries }

/-- Adds a factory under a signature that has none yet. The registry comes back also if the
signature is taken. -/
def add (r : Registry K) (sig : Signature) (factory : Factory K) : Registry K × Logged Unit :=
  if r.contains sig then (r, Logged.fail (.duplicateKernel sig))
  else
    (r.append [(sig, factory)],
      Logged.note .debug s!"{r.runtime}: registered kernel {sig.render}")

/-- The registry with one more factory, or else no registry at all. -/
def register (r : Registry K) (sig : Signature) (factory : Factory K) : Logged (Registry K) := do
  let (next, done) := r.add sig factory
  done
  pure next

/-- Adds factories one after another, up to the first whose signature is taken. Those added before
it stay. -/
def registerAll (r : Registry K) : List (Signature × Factory K) → Registry K × Logged Unit
  | [] => (r, pure ())
  | (sig, factory) :: rest =>
      let (next, step) := r.add sig factory
      match step.outcome with
      | .error _ => (next, step)
      | .ok _ =>
          let (final, done) := next.registerAll rest
          (final, do step; done)

/-- Makes the kernel that an invocation asks for. -/
def instantiate (r : Registry K) (call : Invocation) : Logged K := do
  let sig ← call.signature
  match r.factory? sig with
  | none => Logged.fail (.kernelNotFound sig)
  | some factory =>
      Logged.note .debug s!"{r.runtime}: creating kernel {sig.render}"
      factory call

/-- Under a signature that is taken nothing is added. -/
theorem add_of_contains {r : Registry K} {sig : Signature} (h : r.contains sig = true)
    (factory : Factory K) : r.add sig factory = (r, Logged.fail (.duplicateKernel sig)) :=
  if_pos h

/-- Under a free signature one entry is added. -/
theorem add_of_free {r : Registry K} {sig : Signature} (h : r.contains sig = false)
    (factory : Factory K) :
    r.add sig factory = (r.append [(sig, factory)],
      Logged.note .debug s!"{r.runtime}: registered kernel {sig.render}") := by
  unfold add
  rw [h]
  rfl

/-- A signature field by field. -/
def describeSignature (s : Signature) : String :=
  "KernelDef \x7b op: " ++ quoted s.op ++ ", dtype: " ++ s.dtype.tag ++ ", index_dtype: " ++
    s.index.tag ++ " \x7d"

/-- The registry field by field: its runtime and its signatures. -/
def describe (r : Registry K) : String :=
  "KernelRegistry \x7b runtime: " ++ quoted r.runtime ++ ", kernels: [" ++
    ", ".intercalate (r.signatures.map describeSignature) ++ "] \x7d"

end Registry

end TensorScan
