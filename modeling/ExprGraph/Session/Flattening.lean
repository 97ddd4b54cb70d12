import ExprGraph.Session.Command

/-!
The single steps a command stands for.  Main statement: carrying out commands leads to the session
that carrying out their single steps in order leads to, so what holds after every list of steps
holds after every list of commands.
-/

namespace ExprGraph

mutual

def Command.steps : Command → List Step
  | .once step => [step]
  | .repeated count body => (List.replicate count (Command.allSteps body)).flatten

def Command.allSteps : List Command → List Step
  | [] => []
  | command :: rest => command.steps ++ Command.allSteps rest

end

theorem Progress.repeated_session (body : Progress → Progress) (steps : List Step)
    (once : ∀ progress, (body progress).session = progress.session.run steps)
    (count : Nat) (progress : Progress) :
    (Nat.repeat body count progress).session =
      progress.session.run (List.replicate count steps).flatten := by
  induction count with
  | zero => rfl
  | succ count ih =>
      rw [List.replicate_succ', List.flatten_append, Session.run_append, ← ih]
      rw [List.flatten_singleton]
      exact once (Nat.repeat body count progress)

mutual

theorem Command.run_session (session : Session) :
    ∀ command : Command, (command.run session).1 = session.run command.steps
  | .once step => by
      rw [Command.run, Command.steps]
      rfl
  | .repeated count body => by
      rw [Command.run, Command.steps]
      exact Progress.repeated_session _ _ (fun progress => Command.runAll_session progress body)
        count { session := session }

theorem Command.runAll_session (progress : Progress) :
    ∀ commands : List Command,
      (Command.runAll commands progress).session =
        progress.session.run (Command.allSteps commands)
  | [] => by
      rw [Command.runAll, Command.allSteps]
      rfl
  | command :: rest => by
      rw [Command.runAll, Command.allSteps, Session.run_append, ← Command.run_session]
      exact Command.runAll_session _ rest

end

end ExprGraph
