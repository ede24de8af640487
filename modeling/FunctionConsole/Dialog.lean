/-!
# Questions before changes

A change that is destructive or hard to take back is made only after the user has confirmed it.
-/

namespace FunctionConsole

/-- A change that waits for its confirmation. -/
inductive Mutation where
  | deleteFunction (id : String)
  | setDisabled (id : String) (disabled : Bool)
  | activateVersion (id : String) (version : UInt32)
  deriving DecidableEq, Repr, Inhabited

/-- A question with the change that a yes makes. -/
structure Dialog where
  title : String
  message : String
  onConfirm : Mutation
  /-- The question is drawn as a warning. -/
  danger : Bool
  deriving DecidableEq, Repr, Inhabited

namespace Dialog

/-- Asks whether to delete a function. -/
def deleteFunction (id name : String) : Dialog :=
  { title := "Delete Function"
    message := "Are you sure you want to delete \"" ++ name ++ "\"? This action cannot be undone."
    onConfirm := .deleteFunction id
    danger := true }

/-- Asks whether to disable or enable a function. -/
def setDisabled (id : String) (disabled : Bool) : Dialog :=
  { title := if disabled then "Disable Function" else "Enable Function"
    message := "Are you sure you want to " ++ (if disabled then "disable" else "enable") ++
      " this function?"
    onConfirm := .setDisabled id disabled
    danger := disabled }

/-- Asks whether to make a version the active one. -/
def activateVersion (id : String) (version : UInt32) : Dialog :=
  { title := "Activate Version"
    message := "Activate version " ++ toString version.toNat ++ "?"
    onConfirm := .activateVersion id version
    danger := false }

end Dialog

end FunctionConsole
