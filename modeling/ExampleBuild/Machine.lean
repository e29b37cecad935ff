import ExampleBuild.Event

namespace ExampleBuild

/-! A machine is what a run asks and acts on: files, processes, a clock and an
environment. Its state is of any type, so what is said of a run holds whatever the
machine answers, and its answers may depend on everything done before. -/

structure Machine (σ : Type) where
  platform : Platform
  environment : Environment
  currentDirectory : σ → Except SystemError Path
  canonical : σ → Path → Except SystemError Path
  /-- The names directly below a directory, in the order in which they are listed.
  Reading on may fail after any name. -/
  list : σ → Path → Except SystemError (List (Except SystemError ListedName))
  launch : σ → Command → Path → Ending × σ
  unlink : σ → Path → Except SystemError Unit × σ
  clock : σ → Nat

inductive Stream
  | output
  | diagnostics
  deriving DecidableEq

inductive Action
  | noted (event : Event)
  | launched (command : Command) (directory : Path) (ending : Ending)
  | unlinked (path : Path) (result : Except SystemError Unit)
  | printed (stream : Stream) (line : String)

/-! ## Activities

An activity takes a machine's state to a result, the actions on the way in order, and
the state after them. -/

structure Performed (σ α : Type) where
  result : α
  actions : List Action
  state : σ

def Activity (σ α : Type) : Type := σ → Performed σ α

namespace Activity

variable {σ α β : Type}

def done (result : α) : Activity σ α := fun state => ⟨result, [], state⟩

def andThen (first : Activity σ α) (next : α → Activity σ β) : Activity σ β := fun state =>
  let before := first state
  let after := next before.result before.state
  ⟨after.result, before.actions ++ after.actions, after.state⟩

instance : Monad (Activity σ) where
  pure := done
  bind := andThen

@[simp] theorem pure_apply (result : α) (state : σ) :
    (pure result : Activity σ α) state = ⟨result, [], state⟩ := rfl

@[simp] theorem bind_apply (first : Activity σ α) (next : α → Activity σ β) (state : σ) :
    (first >>= next) state =
      ⟨(next (first state).result (first state).state).result,
       (first state).actions ++ (next (first state).result (first state).state).actions,
       (next (first state).result (first state).state).state⟩ := rfl

@[simp] theorem map_apply (change : α → β) (activity : Activity σ α) (state : σ) :
    (change <$> activity) state =
      ⟨change (activity state).result, (activity state).actions, (activity state).state⟩ := by
  change (⟨_, _ ++ [], _⟩ : Performed σ β) = _
  rw [List.append_nil]
  rfl

instance : LawfulMonad (Activity σ) := LawfulMonad.mk' _
  (fun activity => by
    funext state
    change (⟨_, _ ++ [], _⟩ : Performed σ _) = activity state
    rw [List.append_nil]
    rfl)
  (fun _ _ => rfl)
  (fun first next last => by
    funext state
    simp only [bind_apply, List.append_assoc])

def reading (question : σ → α) : Activity σ α := fun state => ⟨question state, [], state⟩

@[simp] theorem reading_apply (question : σ → α) (state : σ) :
    reading question state = ⟨question state, [], state⟩ := rfl

def act (action : Action) : Activity σ Unit := fun state => ⟨(), [action], state⟩

def note (event : Event) : Activity σ Unit := act (.noted event)

@[simp] theorem note_apply (event : Event) (state : σ) :
    note event state = ⟨(), [.noted event], state⟩ := rfl

def print (stream : Stream) (line : String) : Activity σ Unit := act (.printed stream line)

@[simp] theorem print_apply (stream : Stream) (line : String) (state : σ) :
    print stream line state = ⟨(), [.printed stream line], state⟩ := rfl

def inOrder : List (Activity σ Unit) → Activity σ Unit
  | [] => pure ()
  | first :: rest => do
      first
      inOrder rest

theorem inOrder_act (actions : List Action) (state : σ) :
    inOrder (actions.map act) state = ⟨(), actions, state⟩ := by
  induction actions with
  | nil => rfl
  | cons action rest induction =>
      rw [List.map_cons, inOrder, bind_apply, act, induction]
      rfl

theorem inOrder_note {α : Type} (event : α → Event) (items : List α) (state : σ) :
    inOrder (items.map fun item => note (event item)) state =
      ⟨(), (items.map event).map .noted, state⟩ := by
  rw [← inOrder_act, List.map_map, List.map_map]
  rfl

def launch (machine : Machine σ) (command : Command) (directory : Path) :
    Activity σ Ending := fun state =>
  let (ending, after) := machine.launch state command directory
  ⟨ending, [.launched command directory ending], after⟩

def unlink (machine : Machine σ) (path : Path) :
    Activity σ (Except SystemError Unit) := fun state =>
  let (result, after) := machine.unlink state path
  ⟨result, [.unlinked path result], after⟩

end Activity

end ExampleBuild
