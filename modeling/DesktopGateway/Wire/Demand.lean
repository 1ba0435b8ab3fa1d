/-!
# Demands

A reading asks for its bytes one at a time and never for a byte behind its end. The same reading
runs on a byte string (`run`) and on any source that hands out one byte after the other (`drive`).
-/

namespace DesktopGateway.Wire

/-- A reading that has its result, or that continues with the next byte or with the end. -/
inductive Demand (α : Type) where
  | done (result : α)
  | next (onByte : UInt8 → Demand α) (onEnd : Demand α)

inductive Pulled where
  | byte (value : UInt8)
  | ended
  | waiting
  deriving DecidableEq, Repr

namespace Demand

variable {α β ε σ : Type}

protected def bind : Demand α → (α → Demand β) → Demand β
  | done result, further => further result
  | next onByte onEnd, further =>
      next (fun byte => (onByte byte).bind further) (onEnd.bind further)

def andThen (first : Demand (Except ε α)) (further : α → Demand (Except ε β)) :
    Demand (Except ε β) :=
  first.bind fun
    | .ok value => further value
    | .error fault => done (.error fault)

/-- The result, and the bytes behind what was read. -/
def run : Demand α → List UInt8 → α × List UInt8
  | done result, bytes => (result, bytes)
  | next _ onEnd, [] => onEnd.run []
  | next onByte _, byte :: rest => (onByte byte).run rest

/-- The result on a source, or nothing when the source never answers. -/
def drive (pull : σ → Pulled × σ) : Demand α → σ → Option α × σ
  | done result, source => (some result, source)
  | next onByte onEnd, source =>
      match pull source with
      | (.byte value, source) => (onByte value).drive pull source
      | (.ended, source) => onEnd.drive pull source
      | (.waiting, source) => (none, source)

@[simp] theorem run_done (result : α) (bytes : List UInt8) :
    (done result).run bytes = (result, bytes) := by
  cases bytes <;> rfl

@[simp] theorem run_next_nil (onByte : UInt8 → Demand α) (onEnd : Demand α) :
    (next onByte onEnd).run [] = onEnd.run [] := rfl

@[simp] theorem run_next_cons (onByte : UInt8 → Demand α) (onEnd : Demand α) (byte : UInt8)
    (rest : List UInt8) : (next onByte onEnd).run (byte :: rest) = (onByte byte).run rest := rfl

theorem run_bind (first : Demand α) (further : α → Demand β) (bytes : List UInt8) :
    (first.bind further).run bytes = (further (first.run bytes).1).run (first.run bytes).2 := by
  induction first generalizing bytes with
  | done result => simp [Demand.bind]
  | next onByte onEnd ihByte ihEnd =>
      cases bytes with
      | nil => simpa [Demand.bind] using ihEnd []
      | cons byte rest => simpa [Demand.bind] using ihByte byte rest

end Demand

end DesktopGateway.Wire
