import ReloadProbe.Proofs.Broker.Calls

/-! What may be told when a broker cannot be launched, asked after or signalled. -/
namespace ReloadProbe

open Interaction

/-- Why there is no broker. -/
inductive LaunchFault : Failure → Prop where
  | unlaunched (program source : String) : LaunchFault (.spawn program source)

/-- Why the state of a broker is not known. -/
inductive StateFault : Failure → Prop where
  | unknown (source : String) : StateFault (.status source)

/-- Why a signal did not reach a broker. -/
inductive SignalFault : Failure → Prop where
  | gone : SignalFault .notRunning
  | undelivered (s : Signal) (pid : UInt32) (reason : String) : SignalFault (.signal s pid reason)
  | unknown (source : String) : SignalFault (.status source)

namespace Subprocess

variable {b b' : Subprocess} {events : List (Event Child.child)} {e : Failure}

theorem spawn_fault {command : Config.BrokerCommand} {grace : Duration} {config : Path}
    {port : UInt16} (h : Runs (spawn command grace config port) events (.error e)) :
    LaunchFault e := by
  obtain ⟨reply, later, _, told⟩ := runs_reply.mp h
  cases reply with
  | ok pid => cases (runs_pure.mp told).2
  | error source =>
    cases (runs_pure.mp told).2
    exact .unlaunched _ source

theorem exitState_fault (h : Runs b.exitState events (.error e, b')) : StateFault e := by
  cases runs_exitState h with
  | failed unknown source => exact .unknown source

theorem send_fault {pid : UInt32} {s : Signal} (h : Runs (send pid s) events (.error e)) :
    SignalFault e := by
  unfold send at h
  split at h
  · obtain ⟨reply, later, _, told⟩ := runs_reply.mp h
    cases reply with
    | delivered =>
      obtain ⟨_, same⟩ := runs_pure.mp told
      cases same
    | nobody =>
      obtain ⟨_, same⟩ := runs_pure.mp told
      cases same
      exact .gone
    | failed reason =>
      obtain ⟨_, same⟩ := runs_pure.mp told
      cases same
      exact .undelivered s pid reason
  · obtain ⟨_, same⟩ := runs_pure.mp h
    cases same
    exact .undelivered s pid _

theorem signal_fault {s : Signal} (h : Runs (b.signal s) events (.error e, b')) :
    SignalFault e := by
  obtain ⟨asked, later, ⟨state, c⟩, _, asking, told⟩ := runs_seq.mp h
  dsimp only at told
  split at told
  · obtain ⟨_, same⟩ := runs_pure.mp told
    cases same
    cases exitState_fault asking
    exact .unknown _
  · obtain ⟨_, same⟩ := runs_pure.mp told
    cases same
    exact .gone
  · obtain ⟨_, same⟩ := runs_pure.mp told
    cases same
    exact .gone
  · obtain ⟨sent, nothing, r, _, sending, ended⟩ := runs_seq.mp told
    obtain ⟨_, same⟩ := runs_pure.mp ended
    cases same
    exact send_fault sending

end Subprocess
end ReloadProbe
