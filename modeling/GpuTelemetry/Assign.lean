namespace GpuTelemetry

variable {α β : Type} [DecidableEq α]

def assign (f : α → β) (a : α) (b : β) : α → β := fun x => if x = a then b else f x

@[simp] theorem assign_self (f : α → β) (a : α) (b : β) : assign f a b a = b := by simp [assign]

@[simp] theorem assign_of_ne (f : α → β) {a x : α} (b : β) (h : x ≠ a) : assign f a b x = f x := by
  simp [assign, h]

end GpuTelemetry
