import ClusterClient.Executor.Execute
import ClusterClient.Executor.SpeedTest
/-!
# Calls

Everything an executor can be asked to do, as calls that start, wait for signals, and end with a
reply or an error.
-/

namespace ClusterClient

/-- What is asked of an executor, by a caller or by the background. -/
inductive Order (α : Type) where
  | execute (command : Command α) (options : Options)
  | updateTopology (node : Node) (force : Bool) (limit : Option Duration)
  | updateConfiguration
  | speedTest
  | firstUpdate
  | refreshTopology (force : Bool)

def Message.order {α : Type} : Message → Order α
  | .firstUpdate => .firstUpdate
  | .updateTopology force => .refreshTopology force
  | .updateConfiguration => .updateConfiguration
  | .speedTest => .speedTest

inductive Call (α : Type) where
  | executing (execution : Execution α)
  | configuring (execution : Execution ConfigurationVersion)
  | updating (update : Update)
  | testing (test : SpeedTest)

inductive Reply (α : Type) where
  | executed (result : Executed α)
  | updated (value : Bool)
  | tested

abbrev Ending (α : Type) := Except ExecutorError (Reply α)

namespace Executor

variable {α : Type}

abbrev Step (α : Type) := Executor × Progress (Call α) (Ending α)

def executed (command : Command α) (options : Options) : Next α → Step α
  | (x, progress) =>
    (x, (progress.map (·.map .executed)).mapState fun phase =>
      .executing { command, options, phase })

/-- Takes over the configuration that a server sent, if it is newer than the one in force, and says
whether it did. -/
def configure (x : Executor) (incoming : ConfigurationVersion) : Executor × Bool :=
  ({ x with configuration := x.configuration.latest incoming },
    x.configuration.etag < incoming.etag)

def configured (command : Command ConfigurationVersion) (options : Options) :
    Next ConfigurationVersion → Step α
  | (x, .waiting phase) => (x, .waiting (.configuring { command, options, phase }))
  | (x, .done (.error e)) => (x, .done (.error e))
  | (x, .done (.ok executed)) =>
    let (x, isNewer) := x.configure executed.result
    (x, .done (.ok (.updated isNewer)))

def updated : Executor × Progress Update (Except ExecutorError Bool) → Step α
  | (x, progress) => (x, (progress.map (·.map .updated)).mapState .updating)

def tested : Executor × Progress SpeedTest (Except ExecutorError Unit) → Step α
  | (x, progress) => (x, (progress.map (·.map fun _ => .tested)).mapState .testing)

def begin (x : Executor) (m : Moment) : Order α → Step α
  | .execute command options => executed command options (x.execute command options m)
  | .updateTopology node force limit => updated (x.updateTopology node force limit m.now)
  | .updateConfiguration =>
    match x.scope with
    | .cluster => (x, .done (.ok (.updated false)))
    | .database name =>
      let command := Command.configuration name
      configured command {} (x.execute command {} m)
  | .speedTest => tested (x.speedTest m.now)
  | .firstUpdate => updated (x.firstUpdate m.now)
  | .refreshTopology force => updated (x.refreshTopology force m.now)

def advance (x : Executor) (m : Moment) (signal : Signal) : Call α → Step α
  | .executing c => executed c.command c.options (x.advanceExecution c signal m)
  | .configuring c => configured c.command c.options (x.advanceExecution c signal m)
  | .updating u => updated (x.advanceUpdate u signal m.now)
  | .testing t => tested (x.advanceTest t signal m.now)

/-- Gives up a call: nothing it was waiting for will reach it, and the lock is free again if the
call had it. -/
def abandon (x : Executor) : Call α → Executor
  | .executing c => x.abandonExecution c
  | .configuring c => x.abandonExecution c
  | .updating u => x.abandonRefresh u.refresh
  | .testing _ => x

end Executor

inductive Wait where
  | lock
  | pause (length : Duration)
  | answers
  deriving DecidableEq, Repr

namespace Refresh

def wait : Refresh → Wait
  | .queued _ _ => .lock
  | .sweeping _ => .answers

end Refresh

namespace Call

variable {α : Type}

def waitOf : Phase α → Wait
  | .ensuring update => update.refresh.wait
  | .pausing _ _ pause => .pause pause
  | .flying _ _ => .answers

def wait : Call α → Wait
  | .executing c => waitOf c.phase
  | .configuring c => waitOf c.phase
  | .updating u => u.refresh.wait
  | .testing _ => .answers

end Call

end ClusterClient
