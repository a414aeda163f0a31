import SwapWarden.Clock
import SwapWarden.Duration
import SwapWarden.Memory.History
import SwapWarden.Report.Health
import SwapWarden.Simulation.Agenda

/-!
# Sampling in virtual time

A sampling loop reads the node's statistics at once and then once every period,
records them and reports how it went.  A failed reading leaves a gap; a source
that breaks down takes the loop with it.  A loop without a period breaks down
before its first reading.
-/

namespace SwapWarden.Simulation

/-- What a source of statistics gives.  Reading a broken one ends the loop that
reads. -/
inductive StatsSource where
  | stats (stats : NodeStats)
  | failing (fault : Fault)
  | broken
  deriving Inhabited

namespace StatsSource

/-- What a reading of the source gives; a broken one gives nothing. -/
def read? : StatsSource → Option (Except Fault NodeStats)
  | stats value => some (.ok value)
  | failing fault => some (.error fault)
  | broken => none

end StatsSource

/-- The samples and where they come from.  Readings take no time on the
calendar. -/
structure Sampling where
  history : History
  source : StatsSource := .stats {}
  calendar : Int
  deriving Inhabited

namespace Sampling

/-- Takes one sample. -/
def sample (sampling : Sampling) (reading : Except Fault NodeStats) :
    Except Fault Unit × Sampling :=
  match sampling.history.sampled sampling.calendar reading with
  | .ok history => (.ok (), { sampling with history })
  | .error fault => (.error fault, sampling)

/-- One turn of a loop: takes a sample and reports.  A broken source gives
nothing and leaves the last report as it was. -/
def turn? (sampling : Sampling) (health : HealthRegistry) :
    Option (Sampling × HealthRegistry) :=
  sampling.source.read?.map (fun reading =>
    let (result, sampling) := sampling.sample reading
    (sampling, health.report Component.sampler result))

end Sampling

/-- Sampling by itself, with its clock and the periods of its loops, if they
were started. -/
structure SamplingRun where
  sampling : Sampling
  health : HealthRegistry := {}
  now : Nat := 0
  agenda : Agenda Duration := {}
  started : Bool := false
  deriving Inhabited

namespace SamplingRun

/-- One turn of the loop with a period. -/
def turn (run : SamplingRun) (period : Duration) : SamplingRun :=
  match run.sampling.turn? run.health with
  | some (sampling, health) =>
      { run with
        sampling, health
        agenda := run.agenda.put (run.now + period.nanos) period }
  | none => run

/-- Everything that is due at a time. -/
def happen (time : Nat) (run : SamplingRun) : SamplingRun :=
  let (due, agenda) := run.agenda.takeDue time
  due.foldl turn { run with agenda, now := time }

/-- Starts a loop; those that run go on beside it. -/
def spawn (run : SamplingRun) (period : Duration) : SamplingRun :=
  let run := { run with started := true }
  if period.nanos = 0 then run else run.turn period

/-- Lets some time pass. -/
def advance (run : SamplingRun) (span : Duration) : SamplingRun :=
  let target := run.now + span.nanos
  { Clock.run (fun run : SamplingRun => run.agenda.next) happen target run.now
      run with now := target }

/-- Stops all loops; tells whether any were started. -/
def stop (run : SamplingRun) : Bool × SamplingRun :=
  (run.started, { run with agenda := {}, started := false })

end SamplingRun

end SwapWarden.Simulation
