/-!
# Checked settings

A setting that was checked has a value, or flaws. Settings are put together so
that the flaws of all of them are kept, in order.
-/

namespace TaskSync

structure Flaw where
  /-- The setting, with the position of the entry for a list. -/
  place : String
  message : String
deriving DecidableEq

def Flaw.text (flaw : Flaw) : String := flaw.place ++ ": " ++ flaw.message

inductive Checked (α : Type) where
  | good (value : α)
  /-- With `usable`, the setting has a value of the right kind that breaks a rule. -/
  | flawed (flaws : List Flaw) (usable : Bool)

namespace Checked

variable {α β : Type}

def flaws : Checked α → List Flaw
  | good _ => []
  | flawed flaws _ => flaws

def usable : Checked α → Bool
  | good _ => true
  | flawed _ usable => usable

def map (f : α → β) : Checked α → Checked β
  | good value => good (f value)
  | flawed flaws usable => flawed flaws usable

def and (f : Checked (α → β)) (x : Checked α) : Checked β :=
  match f, x with
  | good f, good value => good (f value)
  | f, x => flawed (f.flaws ++ x.flaws) (f.usable && x.usable)

/-- A setting with a rule that it breaks. -/
def broken (place message : String) : Checked α := flawed [⟨place, message⟩] true

def unusable (place message : String) : Checked α := flawed [⟨place, message⟩] false

/-- The value if no rule is broken. -/
def ofRules (value : α) (flaws : List Flaw) : Checked α :=
  if flaws.isEmpty then good value else flawed flaws true

/-- Checks every entry of a list, with its position. -/
def list (check : Nat → β → Checked α) (start : Nat) : List β → Checked (List α)
  | [] => good []
  | entry :: rest => ((check start entry).map List.cons).and (list check (start + 1) rest)

/-- Adds the flaws found by looking at several settings together. This is not done if one of them
is of no use. -/
def alsoFlawed (checked : Checked α) (more : List Flaw) : Checked α :=
  match checked with
  | good value => ofRules value more
  | flawed flaws usable => flawed (if usable then flaws ++ more else flaws) usable

/-! ## What is kept -/

@[simp] theorem flaws_map (f : α → β) (x : Checked α) : (x.map f).flaws = x.flaws := by
  cases x <;> rfl

@[simp] theorem flaws_and (f : Checked (α → β)) (x : Checked α) :
    (f.and x).flaws = f.flaws ++ x.flaws := by
  cases f <;> cases x <;> simp [Checked.and, flaws]

@[simp] theorem usable_map (f : α → β) (x : Checked α) : (x.map f).usable = x.usable := by
  cases x <;> rfl

@[simp] theorem usable_and (f : Checked (α → β)) (x : Checked α) :
    (f.and x).usable = (f.usable && x.usable) := by
  cases f <;> cases x <;> simp [Checked.and, usable]

@[simp] theorem flaws_alsoFlawed (x : Checked α) (more : List Flaw) :
    (x.alsoFlawed more).flaws = x.flaws ++ if x.usable then more else [] := by
  cases x with
  | good value => cases more <;> rfl
  | flawed flaws usable => cases usable <;> simp [alsoFlawed, Checked.flaws, Checked.usable]

end Checked

end TaskSync
