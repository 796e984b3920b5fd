import ThemeLint.Failure

/-!
Work that leaves a trace and may fail. The trace holds what was logged and what the client was
called for, in order; it stays when the work fails.
-/

set_option autoImplicit false

namespace ThemeLint

inductive Level where
  | debug
  | info
  | warning
  deriving DecidableEq, Repr

def Level.text : Level → String
  | .debug => "DEBUG"
  | .info => "INFO"
  | .warning => "WARNING"

inductive ClientCall where
  | publish (uri diagnostics : Json)
  | showLog (message : Json)
  | send (method params : Json)

inductive Event where
  | record (level : Level) (text : String)
  | call (call : ClientCall)

def Event.record? : Event → Option (Level × String)
  | .record level text => some (level, text)
  | .call _ => none

def Event.call? : Event → Option ClientCall
  | .record _ _ => none
  | .call c => some c

structure Traced (α : Type) where
  trace : List Event
  result : Except Failure α

namespace Traced

variable {α β : Type}

def records (x : Traced α) : List (Level × String) := x.trace.filterMap Event.record?

def calls (x : Traced α) : List ClientCall := x.trace.filterMap Event.call?

def pure (a : α) : Traced α := ⟨[], .ok a⟩

def bind (x : Traced α) (f : α → Traced β) : Traced β :=
  match x.result with
  | .ok a => ⟨x.trace ++ (f a).trace, (f a).result⟩
  | .error e => ⟨x.trace, .error e⟩

instance : Monad Traced where
  pure := pure
  bind := bind

def fail (f : Failure) : Traced α := ⟨[], .error f⟩

def leave (e : Event) : Traced Unit := ⟨[e], .ok ()⟩

def debug (text : String) : Traced Unit := leave (.record .debug text)

def info (text : String) : Traced Unit := leave (.record .info text)

def warning (text : String) : Traced Unit := leave (.record .warning text)

def call (c : ClientCall) : Traced Unit := leave (.call c)

def ofExcept (x : Except Failure α) : Traced α := ⟨[], x⟩

def ask (x : Except FileFault α) : Traced α := ofExcept (x.mapError fun fault => .read (.file fault))

theorem bind_ok {x : Traced α} {a : α} (h : x.result = .ok a) (f : α → Traced β) :
    x >>= f = ⟨x.trace ++ (f a).trace, (f a).result⟩ := by
  change bind x f = _
  simp [bind, h]

theorem bind_error {x : Traced α} {e : Failure} (h : x.result = .error e) (f : α → Traced β) :
    x >>= f = ⟨x.trace, .error e⟩ := by
  change bind x f = _
  simp [bind, h]

@[simp] theorem mapError_ok {ε δ : Type} (f : ε → δ) (a : α) :
    (Except.ok a : Except ε α).mapError f = .ok a := rfl

@[simp] theorem mapError_error {ε δ : Type} (f : ε → δ) (e : ε) :
    (Except.error e : Except ε α).mapError f = .error (f e) := rfl

@[simp] theorem result_pure (a : α) : (Pure.pure a : Traced α).result = .ok a := rfl

@[simp] theorem trace_pure (a : α) : (Pure.pure a : Traced α).trace = [] := rfl

theorem result_bind (x : Traced α) (f : α → Traced β) :
    (x >>= f).result = x.result.bind fun a => (f a).result := by
  cases h : x.result with
  | ok a => rw [bind_ok h]; rfl
  | error e => rw [bind_error h]; rfl

@[simp] theorem result_ofExcept (x : Except Failure α) : (ofExcept x).result = x := rfl

@[simp] theorem result_fail (f : Failure) : (fail f : Traced α).result = .error f := rfl

theorem leave_bind (e : Event) (x : Unit → Traced β) :
    leave e >>= x = ⟨e :: (x ()).trace, (x ()).result⟩ := bind_ok rfl x

theorem ofExcept_ok_bind (a : α) (f : α → Traced β) : ofExcept (.ok a) >>= f = f a := rfl

theorem bind_pure_eq (x : Traced α) (f : α → β) :
    (x >>= fun a => Pure.pure (f a)) = ⟨x.trace, x.result.map f⟩ := by
  cases h : x.result with
  | ok a => rw [bind_ok h]; simp [Except.map]
  | error failure => rw [bind_error h]; rfl

theorem calls_bind (x : Traced α) (f : α → Traced β) :
    (x >>= f).calls = x.calls ++ match x.result with
      | .ok a => (f a).calls
      | .error _ => [] := by
  cases h : x.result with
  | ok a => rw [bind_ok h]; simp [calls]
  | error e => rw [bind_error h]; simp [calls]

def IsQuiet (x : Traced α) : Prop := x.calls = []

theorem IsQuiet.bind {x : Traced α} {f : α → Traced β} (hx : x.IsQuiet) (hf : ∀ a, (f a).IsQuiet) :
    (x >>= f).IsQuiet := by
  unfold IsQuiet at *
  rw [calls_bind, hx]
  cases x.result with
  | ok a => exact hf a
  | error e => rfl

theorem isQuiet_pure (a : α) : (Pure.pure a : Traced α).IsQuiet := rfl

theorem isQuiet_ofExcept (x : Except Failure α) : (ofExcept x).IsQuiet := rfl

theorem isQuiet_ask (x : Except FileFault α) : (ask x).IsQuiet := rfl

theorem isQuiet_fail (f : Failure) : (fail f : Traced α).IsQuiet := rfl

theorem isQuiet_debug (text : String) : (debug text).IsQuiet := rfl

theorem isQuiet_info (text : String) : (info text).IsQuiet := rfl

theorem isQuiet_warning (text : String) : (warning text).IsQuiet := rfl

def void (x : Traced α) : Traced Unit := do
  let _ ← x

theorem result_void (x : Traced α) : x.void.result = x.result.map fun _ => () := by
  unfold void
  rw [result_bind]
  cases x.result <;> rfl

theorem calls_void (x : Traced α) : x.void.calls = x.calls := by
  unfold void
  rw [calls_bind]
  cases x.result <;> simp [calls]

end Traced

end ThemeLint
