/-
BreakCheck/Log.lean

What an operation reports beside its result.

A `Logged α` is a value together with the notices issued on the way to it, in
order.  It is a plain pair, so "no notice was issued" is an equation between
lists and needs no run of the program.  An operation that may also fail is an
`Attempt`: the notices issued before the failure are kept.
-/
import BreakCheck.Version

namespace BreakCheck

/-! ### Notices -/

/-- An event worth telling the user about. -/
inductive Notice
  /-- An `ignore_only` section was read; it declared this many pairs. -/
  | decodedIgnoreOnly (entries : Nat)
  /-- A document was read up to its configuration. -/
  | parsedDocument (version : Version)
  /-- An ID was declared again; the later declaration is kept. -/
  | duplicateId (id : String)
  /-- A field was lost because the target version does not know it. -/
  | droppedField (field : Field) (source target : Version)
  deriving DecidableEq

/-- The line by which a notice is shown: level, message, then its fields. -/
def Notice.line : Notice → String
  | decodedIgnoreOnly entries => "DEBUG decoded ignore_only | entries=" ++ toString entries
  | parsedDocument version => "DEBUG parsed breaking config document | version=" ++ version.name
  | duplicateId id =>
    "WARN duplicate ignore_only ID, keeping the last declaration | id=" ++ id
  | droppedField field source target =>
    "WARN field dropped during migration | field=" ++ field.key
      ++ " | from=" ++ source.name ++ " | to=" ++ target.name

/-! ### Values with notices -/

/-- A value and the notices issued while it was made, oldest first. -/
structure Logged (α : Type) where
  value : α
  notices : List Notice := []

namespace Logged

variable {α β : Type}

instance : Monad Logged where
  pure a := { value := a }
  bind x f := { value := (f x.value).value, notices := x.notices ++ (f x.value).notices }

/-- Issue one notice. -/
def note (notice : Notice) : Logged Unit := { value := (), notices := [notice] }

@[simp] theorem value_pure (a : α) : (pure a : Logged α).value = a := rfl

@[simp] theorem notices_pure (a : α) : (pure a : Logged α).notices = [] := rfl

@[simp] theorem value_bind (x : Logged α) (f : α → Logged β) :
    (x >>= f).value = (f x.value).value := rfl

/-- Notices are kept in the order in which they are issued. -/
@[simp] theorem notices_bind (x : Logged α) (f : α → Logged β) :
    (x >>= f).notices = x.notices ++ (f x.value).notices := rfl

@[simp] theorem value_map (f : α → β) (x : Logged α) : (f <$> x).value = f x.value := rfl

/-- Changing a value issues no notice. -/
@[simp] theorem notices_map (f : α → β) (x : Logged α) : (f <$> x).notices = x.notices := by
  show x.notices ++ [] = x.notices
  simp

instance : LawfulMonad Logged := LawfulMonad.mk' Logged
  (fun x => by cases x; simp [Functor.map])
  (fun _ _ => rfl)
  (fun x f g => by simp [bind, List.append_assoc])

end Logged

/-- A step that issues notices and may fail with an `ε`. -/
abbrev Attempt (ε : Type) := ExceptT ε Logged

namespace Attempt

variable {ε ε' α : Type}

/-- The outcome of a step, with the notices issued on the way. -/
def outcome (step : Attempt ε α) : Logged (Except ε α) := step.run

/-- A failure told in other words. -/
def mapError (f : ε → ε') (step : Attempt ε α) : Attempt ε' α :=
  ExceptT.mk <| (fun result => result.mapError f) <$> step.run

end Attempt

end BreakCheck
