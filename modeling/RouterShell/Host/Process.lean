import RouterShell.Host.Disk

/-!
# External programs

What running a program gives, and a way to keep account of the programs that reading the state of
the network runs.

## The model

A program is determined by its executable and its arguments. `Responder` says what a run of each
gives; that programs answer alike whenever they are run is all the library assumes about them.
-/

namespace RouterShell

/-- A program with its arguments. -/
structure Run where
  /-- The path or the name of the executable. -/
  exe : String
  /-- The arguments. -/
  args : List String
  deriving DecidableEq, Repr

/-- How a program ended. -/
inductive Ending where
  /-- It returned a code. -/
  | exited (code : Int)
  /-- A signal ended it. -/
  | killed
  deriving DecidableEq, Repr

/-- The code by which the shell refers to an ending. -/
def Ending.code : Ending → Int
  | .exited code => code
  | .killed => -1

/-- What a program left behind. -/
structure Reply where
  /-- What it wrote to standard output. -/
  output : List UInt8
  /-- What it wrote to standard error. -/
  errors : List UInt8
  /-- How it ended. -/
  ending : Ending
  deriving DecidableEq, Repr

/-- What a run of each program gives: a reply, or why the program cannot be started. -/
abbrev Responder := Run → Except OsError Reply

/-- A value, and the programs that were run to find it, in order. -/
structure Logged (α : Type) where
  /-- The value. -/
  value : α
  /-- The programs. -/
  runs : List Run

namespace Logged

instance : Monad Logged where
  pure a := ⟨a, []⟩
  bind x f := ⟨(f x.value).value, x.runs ++ (f x.value).runs⟩

/-- A value that a program was run for. -/
def ran {α : Type} (run : Run) (a : α) : Logged α := ⟨a, [run]⟩

@[simp] theorem value_pure {α : Type} (a : α) : (pure a : Logged α).value = a := rfl

@[simp] theorem runs_pure {α : Type} (a : α) : (pure a : Logged α).runs = [] := rfl

@[simp] theorem value_bind {α β : Type} (x : Logged α) (f : α → Logged β) :
    (x >>= f).value = (f x.value).value := rfl

@[simp] theorem runs_bind {α β : Type} (x : Logged α) (f : α → Logged β) :
    (x >>= f).runs = x.runs ++ (f x.value).runs := rfl

instance : LawfulMonad Logged :=
  LawfulMonad.mk' Logged
    (fun x => by
      cases x with
      | mk value runs => exact congrArg (Logged.mk value) (List.append_nil runs))
    (fun a f => by
      show Logged.mk (f a).value ([] ++ (f a).runs) = f a
      rw [List.nil_append])
    (fun x f g => by
      show Logged.mk _ ((x.runs ++ _) ++ _) = Logged.mk _ (x.runs ++ (_ ++ _))
      rw [List.append_assoc]; rfl)

end Logged

end RouterShell
