import FaultPages.Files.IoFault
import FaultPages.Template.Basic

/-! # Sinks — writing what was rendered

    A sink takes bytes until its room is used up, and then it fails or takes
    nothing.  One write may take any positive part of what is offered, so
    `writeAll` repeats it until all is taken. -/

namespace FaultPages

/-- What a sink without room does with a write. -/
inductive WhenFull where
  | fails (fault : IoFault)
  | takesNothing
  deriving DecidableEq, Repr

/-- A sink with the bytes it took so far.  `portion` says how many of the bytes
    offered it would take after those it has; at least one and at most what
    there is room for is taken. -/
structure Sink where
  room : Nat
  portion : List UInt8 → Nat → Nat
  whenFull : WhenFull
  taken : List UInt8

namespace Sink

/-- The fault that a full sink answers with. -/
def fault (s : Sink) : IoFault :=
  match s.whenFull with
  | .fails f => f
  | .takesNothing => .wroteNothing

/-- How many of `offered` bytes one write takes. -/
def amount (s : Sink) (offered : Nat) : Nat :=
  max 1 (min (s.portion s.taken offered) (min offered s.room))

/-- Take the first `n` bytes. -/
def take (s : Sink) (bytes : List UInt8) (n : Nat) : Sink :=
  { s with room := s.room - n, taken := s.taken ++ bytes.take n }

/-- Write all bytes, or fail when no more are taken.  Without bytes there is
    nothing to write. -/
def writeAll (s : Sink) (bytes : List UInt8) : Except IoFault Unit × Sink :=
  if bytes = [] then (.ok (), s)
  else if s.room = 0 then (.error s.fault, s)
  else
    let n := s.amount bytes.length
    (s.take bytes n).writeAll (bytes.drop n)
termination_by bytes.length
decreasing_by
  rename_i hne _
  have hpos := List.length_pos_iff.mpr hne
  simp only [amount, List.length_drop]
  omega

end Sink

/-- Render into a sink. -/
def Template.renderTo {m : Type → Type} {ε φ : Type} [Monad m] (t : Template m ε φ)
    (context : Context) (s : Sink) : m (Except IoFault Unit × Sink) := do
  let output ← t.render context
  pure (s.writeAll (Text.utf8 output))

/-- Render a template over property paths into a sink. -/
def PathTemplate.renderTo (t : PathTemplate) (context : Context) (s : Sink) :
    Except IoFault Unit × Sink :=
  Id.run (Template.renderTo t context s)

end FaultPages
