import ParticleEffects.Workspace.Command

namespace ParticleEffects
namespace Workspace

/-!
Transcripts: what a run of commands answers.

A failed command changes nothing, and the run goes on.  Each compilation opens a
section of the transcript, and every call that is reported from there up to the
next compilation belongs to that section; calls before the first compilation
belong to none.
-/

/-- One command of a run, with what it answered and reported. -/
structure Entry where
  answer : Except Failure Answer
  reports : List String

def Entry.opensSection (entry : Entry) : Bool :=
  match entry.answer with
  | .ok (.compiled ..) => true
  | _ => false

/-- One command: its entry, and the workspace after it. -/
def runCommand (workspace : Workspace) (command : Command) : Entry × Workspace :=
  match workspace.step command with
  | .ok step => ({ answer := .ok step.answer, reports := step.reports }, step.workspace)
  | .error failure => ({ answer := .error failure, reports := [] }, workspace)

def run (workspace : Workspace) : List Command -> List Entry
  | [] => []
  | command :: rest =>
    let (entry, next) := workspace.runCommand command
    entry :: next.run rest

/-- The workspace after a run. -/
def runTo (workspace : Workspace) (commands : List Command) : Workspace :=
  commands.foldl (fun workspace command => (workspace.runCommand command).2) workspace

/-- The reports of the section that an entry at the head of a run opens. -/
def sectionReports (entry : Entry) (rest : List Entry) : List String :=
  entry.reports ++ (rest.takeWhile fun later => !later.opensSection).flatMap Entry.reports

/-- The answers of a run, each with the reports of the section it opens. -/
def transcript : List Entry -> List (Except Failure Answer × List String)
  | [] => []
  | entry :: rest =>
    (entry.answer, if entry.opensSection then sectionReports entry rest else []) :: transcript rest

end Workspace
end ParticleEffects
